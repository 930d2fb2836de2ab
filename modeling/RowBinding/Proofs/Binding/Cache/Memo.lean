import RowBinding.Proofs.Binding.Cache.Counters
import RowBinding.Proofs.Binding.Cache.Table

/-!
# The cache as a memo table

Operations that run one after another cannot tell a cache from a plain memo
table, which keeps the entries that were computed and notes where the answer to
each request came from. The answers are the same, the computations that are run
are the same, and the counters of the cache are what the notes of the table
amount to since it was cleared.

A computation may work on a state of its own. Whether it was run, and how often,
shows in what it leaves of this state.
-/

namespace RowBinding

/-! ## Operations on a store -/

/-- What can be done with a store, whose computations work on a state. -/
inductive MemoOperation (κ ε : Type)
  | get (key : Fingerprint) (compute : StateM κ (Except BindError ε))
  | clear

/-- What an operation answers, if it is a request, and the counters behind it. -/
structure MemoReply (ε : Type) where
  answer? : Option (Except BindError ε)
  stats : CacheStats

/-- A store of entries, whose computations work on a state. -/
structure MemoStore (κ σ ε : Type) where
  get : Fingerprint → StateM κ (Except BindError ε) → σ → κ →
    Except BindError ε × σ × κ
  stats : σ → CacheStats
  clear : σ → σ

namespace MemoStore

variable {κ σ τ ε : Type}

/-- Do one operation. -/
def perform
    (store : MemoStore κ σ ε)
    (operation : MemoOperation κ ε)
    (content : σ)
    (state : κ) : MemoReply ε × σ × κ :=
  match operation with
  | .get key compute =>
      let (answer, changed, final) := store.get key compute content state
      (⟨some answer, store.stats changed⟩, changed, final)
  | .clear => (⟨none, store.stats (store.clear content)⟩, store.clear content, state)

/-- Do operations one after another. -/
def run (store : MemoStore κ σ ε) :
    List (MemoOperation κ ε) → σ → κ → List (MemoReply ε) × κ
  | [], _, state => ([], state)
  | operation :: rest, content, state =>
      let (reply, changed, final) := store.perform operation content state
      let (replies, last) := store.run rest changed final
      (reply :: replies, last)

/-- Two stores answer alike, and count alike, where their contents correspond. -/
structure Simulates
    (store : MemoStore κ σ ε)
    (other : MemoStore κ τ ε)
    (Corresponds : σ → τ → Prop) : Prop where
  stats_eq : ∀ {content : σ} {otherContent : τ}, Corresponds content otherContent →
    store.stats content = other.stats otherContent
  clear : ∀ {content : σ} {otherContent : τ}, Corresponds content otherContent →
    Corresponds (store.clear content) (other.clear otherContent)
  get : ∀ {content : σ} {otherContent : τ}, Corresponds content otherContent →
    ∀ key compute state, ∃ answer changed otherChanged final,
      store.get key compute content state = (answer, changed, final) ∧
        other.get key compute otherContent state = (answer, otherChanged, final) ∧
          Corresponds changed otherChanged

namespace Simulates

variable
  {store : MemoStore κ σ ε}
  {other : MemoStore κ τ ε}
  {Corresponds : σ → τ → Prop}
  {content : σ}
  {otherContent : τ}

theorem perform
    (simulates : store.Simulates other Corresponds)
    (corresponds : Corresponds content otherContent)
    (operation : MemoOperation κ ε)
    (state : κ) :
    ∃ reply changed otherChanged final,
      store.perform operation content state = (reply, changed, final) ∧
        other.perform operation otherContent state = (reply, otherChanged, final) ∧
          Corresponds changed otherChanged := by
  cases operation with
  | get key compute =>
      obtain ⟨answer, changed, otherChanged, final, gets, otherGets, corresponds⟩ :=
        simulates.get corresponds key compute state
      refine ⟨⟨some answer, store.stats changed⟩, changed, otherChanged, final, ?_, ?_,
        corresponds⟩
      · rw [MemoStore.perform, gets]
      · rw [MemoStore.perform, otherGets, simulates.stats_eq corresponds]
  | clear =>
      have cleared := simulates.clear corresponds
      refine ⟨⟨none, store.stats (store.clear content)⟩, _, _, state, rfl, ?_, cleared⟩
      rw [MemoStore.perform, simulates.stats_eq cleared]

/-- Stores that reply alike to one operation reply alike to any number of them. -/
theorem run_eq
    (simulates : store.Simulates other Corresponds)
    (operations : List (MemoOperation κ ε)) :
    ∀ {content otherContent}, Corresponds content otherContent →
      store.run operations content = other.run operations otherContent := by
  induction operations with
  | nil => exact fun _ => rfl
  | cons operation rest inductionHypothesis =>
      intro content otherContent corresponds
      funext state
      obtain ⟨reply, changed, otherChanged, final, performs, otherPerforms, corresponds⟩ :=
        simulates.perform corresponds operation state
      rw [run, run, performs, otherPerforms]
      dsimp only
      rw [inductionHypothesis corresponds]

end Simulates

theorem stats_perform
    (store : MemoStore κ σ ε)
    (operation : MemoOperation κ ε)
    (content : σ)
    (state : κ) :
    (store.perform operation content state).1.stats =
      store.stats (store.perform operation content state).2.1 := by
  cases operation <;> rfl

theorem fst_run_cons
    (store : MemoStore κ σ ε)
    (operation : MemoOperation κ ε)
    (rest : List (MemoOperation κ ε))
    (content : σ)
    (state : κ) :
    (store.run (operation :: rest) content state).1 =
      (store.perform operation content state).1 ::
        (store.run rest (store.perform operation content state).2.1
          (store.perform operation content state).2.2).1 := rfl

/-- What every operation keeps of the contents of a store shows in the counters behind it. -/
theorem lawful_of_mem_run
    {store : MemoStore κ σ ε}
    {Kept : σ → Prop}
    (Lawful : CacheStats → Prop)
    (lawful : ∀ content, Kept content → Lawful (store.stats content))
    (keeps : ∀ operation content state, Kept content →
      Kept (store.perform operation content state).2.1)
    (operations : List (MemoOperation κ ε)) :
    ∀ content state, Kept content →
      ∀ reply ∈ (store.run operations content state).1, Lawful reply.stats := by
  induction operations with
  | nil => exact fun _ _ _ reply member => by cases member
  | cons operation rest inductionHypothesis =>
      intro content state kept reply member
      have isKept := keeps operation content state kept
      rw [fst_run_cons] at member
      rcases List.mem_cons.mp member with rfl | member
      · rw [stats_perform]
        exact lawful _ isKept
      · exact inductionHypothesis _ _ isKept reply member

end MemoStore

/-! ## The memo table -/

/-- Where the answer to a request came from. -/
inductive AnswerOrigin
  /-- The table had an entry. -/
  | table
  /-- The entry was computed. -/
  | computed
  /-- The computation failed. -/
  | failed
  deriving DecidableEq

/-- The entries of a memo table, and the origins of its answers since it was cleared. -/
structure MemoTable (ε : Type) where
  entries : List (Fingerprint × ε) := []
  origins : List AnswerOrigin := []

namespace MemoTable

variable {κ ε : Type}

/-- The entry of a key. -/
def get? (table : MemoTable ε) (key : Fingerprint) : Option ε :=
  table.entries.lookup key

/-- Note where an answer came from. -/
def note (table : MemoTable ε) (origin : AnswerOrigin) : MemoTable ε :=
  { table with origins := origin :: table.origins }

/-- Keep an entry under a key. -/
def keep (table : MemoTable ε) (key : Fingerprint) (entry : ε) : MemoTable ε :=
  { table with entries := (key, entry) :: table.entries }

/-- Keep what was computed for a key if it is an entry. -/
def settle (table : MemoTable ε) (key : Fingerprint) : Except BindError ε → MemoTable ε
  | .ok entry => (table.keep key entry).note .computed
  | .error _ => table.note .failed

/-- Answer a request from the table, or compute the answer and keep it if it is an entry. -/
def get
    (key : Fingerprint)
    (compute : StateM κ (Except BindError ε))
    (table : MemoTable ε)
    (state : κ) : Except BindError ε × MemoTable ε × κ :=
  match table.get? key with
  | some entry => (.ok entry, table.note .table, state)
  | none =>
      let (outcome, final) := compute state
      (outcome, table.settle key outcome, final)

/-- The requests answered from the table and the others, the entries computed, and the keys
with an entry. -/
def stats (table : MemoTable ε) : CacheStats where
  hits := table.origins.count .table
  misses := table.origins.countP (· ≠ .table)
  compilations := table.origins.count .computed
  size := table.entries.length

theorem stats_note (table : MemoTable ε) (origin : AnswerOrigin) :
    (table.note origin).stats =
      match origin with
      | .table => { table.stats with hits := table.stats.hits + 1 }
      | .computed =>
          { table.stats with
            misses := table.stats.misses + 1
            compilations := table.stats.compilations + 1 }
      | .failed => { table.stats with misses := table.stats.misses + 1 } := by
  cases origin <;> simp [stats, note]

/-- The memo table as a store, which clearing empties. -/
def store (κ ε : Type) : MemoStore κ (MemoTable ε) ε where
  get := get
  stats := stats
  clear _ := {}

/-- Keys have one entry, and every entry was computed since the table was cleared. -/
structure Orderly (table : MemoTable ε) : Prop where
  distinct : (table.entries.map Prod.fst).Nodup
  computed_eq : table.origins.count .computed = table.entries.length

theorem orderly_empty : ({} : MemoTable ε).Orderly :=
  ⟨List.nodup_nil, rfl⟩

theorem Orderly.note
    {table : MemoTable ε}
    (orderly : table.Orderly)
    {origin : AnswerOrigin}
    (notComputed : origin ≠ .computed) :
    (table.note origin).Orderly :=
  ⟨orderly.distinct, (List.count_cons_of_ne notComputed).trans orderly.computed_eq⟩

theorem get?_eq_none_iff {table : MemoTable ε} {key : Fingerprint} :
    table.get? key = none ↔ key ∉ table.entries.map Prod.fst := by
  rw [get?, List.lookup_eq_none_iff, List.mem_map]
  refine ⟨fun different ⟨pair, member, same⟩ => ?_, fun absent pair member => ?_⟩
  · simpa [same] using different pair member
  · exact bne_iff_ne.mpr fun same => absent ⟨pair, member, same.symm⟩

theorem get?_keep (table : MemoTable ε) (key other : Fingerprint) (entry : ε) :
    (table.keep key entry).get? other = if other = key then some entry else table.get? other := by
  by_cases same : other = key
  · subst same
    simp [get?, keep]
  · simp [get?, keep, List.lookup_cons, beq_false_of_ne same, same]

theorem get?_settle
    {table : MemoTable ε}
    {key : Fingerprint}
    (absent : table.get? key = none)
    (outcome : Except BindError ε)
    (other : Fingerprint) :
    (table.settle key outcome).get? other =
      if other = key then outcome.toOption else table.get? other := by
  cases outcome with
  | ok entry => exact get?_keep table key other entry
  | error error =>
      change table.get? other = _
      split
      · next same => exact same ▸ absent
      · rfl

theorem Orderly.keep
    {table : MemoTable ε}
    {key : Fingerprint}
    (orderly : table.Orderly)
    (absent : table.get? key = none)
    (entry : ε) :
    ((table.keep key entry).note .computed).Orderly where
  distinct := List.nodup_cons.mpr ⟨get?_eq_none_iff.mp absent, orderly.distinct⟩
  computed_eq := List.count_cons_self.trans (congrArg (· + 1) orderly.computed_eq)

theorem Orderly.settle
    {table : MemoTable ε}
    {key : Fingerprint}
    (orderly : table.Orderly)
    (absent : table.get? key = none)
    (outcome : Except BindError ε) :
    (table.settle key outcome).Orderly := by
  cases outcome with
  | ok entry => exact orderly.keep absent entry
  | error error => exact orderly.note nofun

theorem Orderly.perform
    {table : MemoTable ε}
    (orderly : table.Orderly)
    (operation : MemoOperation κ ε)
    (state : κ) :
    ((store κ ε).perform operation table state).2.1.Orderly := by
  cases operation with
  | clear => exact orderly_empty
  | get key compute =>
      change (table.get key compute state).2.1.Orderly
      unfold get
      cases known : table.get? key with
      | some entry => exact orderly.note nofun
      | none => exact orderly.settle known _

end MemoTable

/-! ## The cache beside the table -/

namespace BindingCache

variable {κ ε : Type}

/-- Answer a request whose computation works on a state of its own. -/
def getOrComputeWith
    (key : Fingerprint)
    (compute : StateM κ (Except BindError ε))
    (cache : BindingCache ε)
    (state : κ) : Except BindError ε × BindingCache ε × κ :=
  let (slot, fetched) := cache.fetchSlot key
  match fetched.content? slot with
  | some entry => (.ok entry, fetched.countHit, state)
  | none =>
      match compute state with
      | (.ok entry, final) =>
          (.ok entry, (fetched.countMiss.fillSlot slot entry).mapSlot key slot, final)
      | (.error error, final) => (.error error, fetched.countMiss.dropSlot key slot, final)

/-- The cache as a store whose computations work on a state. -/
def memoStore (κ ε : Type) : MemoStore κ (BindingCache ε) ε where
  get := getOrComputeWith
  stats := stats
  clear := clear

/-- The computation is run once if the key has no entry, and not at all if it has one. -/
theorem getOrComputeWith_eq
    (key : Fingerprint)
    (compute : StateM κ (Except BindError ε))
    (cache : BindingCache ε)
    (state : κ) :
    cache.getOrComputeWith key compute state =
      ((cache.getOrCompute key fun _ => (compute state).1).1,
        (cache.getOrCompute key fun _ => (compute state).1).2,
        if (cache.get? key).isSome then state else (compute state).2) := by
  rw [getOrComputeWith, getOrCompute, ← content?_fetchSlot_self cache key]
  dsimp only
  cases (cache.fetchSlot key).2.content? (cache.fetchSlot key).1 with
  | some entry => rfl
  | none =>
      obtain ⟨outcome, final⟩ := compute state
      cases outcome <;> rfl

/-- The table has the entries of a sound cache, and notes what the cache counts. -/
structure Represents (cache : BindingCache ε) (table : MemoTable ε) : Prop where
  sound : cache.Sound
  orderly : table.Orderly
  get?_eq : ∀ key, cache.get? key = table.get? key
  hits_eq : cache.hits = table.stats.hits
  misses_eq : cache.misses = table.stats.misses
  compilations_eq : cache.compilations = table.stats.compilations

theorem represents_of_clear (cache : BindingCache ε) : cache.clear.Represents {} where
  sound := ⟨List.nodup_nil, nofun, nofun⟩
  orderly := MemoTable.orderly_empty
  get?_eq _ := rfl
  hits_eq := rfl
  misses_eq := rfl
  compilations_eq := rfl

/-- The keys with a filled slot are those with an entry. -/
theorem Sound.mem_filled_iff {cache : BindingCache ε} {key : Fingerprint} (sound : cache.Sound) :
    key ∈ (cache.mapping.filter fun pair => (cache.content? pair.2).isSome).map Prod.fst ↔
      cache.get? key ≠ none := by
  rw [List.mem_map, ← Option.isSome_iff_ne_none]
  constructor
  · rintro ⟨⟨_, slot⟩, member, rfl⟩
    obtain ⟨isMapped, isFilled⟩ := List.mem_filter.mp member
    rw [get?, sound.mapsOnce.slot?_eq_some_iff.mpr isMapped]
    exact isFilled
  · intro isFilled
    cases mapped : cache.slot? key with
    | none =>
        rw [get?, mapped] at isFilled
        cases isFilled
    | some slot =>
        rw [get?, mapped] at isFilled
        exact ⟨(key, slot), List.mem_filter.mpr ⟨mem_of_slot? mapped, isFilled⟩, rfl⟩

namespace Represents

variable {cache : BindingCache ε} {table : MemoTable ε}

theorem size_eq (represents : cache.Represents table) :
    cache.stats.size = table.entries.length := by
  have filledDistinct :
      ((cache.mapping.filter fun pair => (cache.content? pair.2).isSome).map Prod.fst).Nodup :=
    represents.sound.mapsOnce.sublist (List.filter_sublist.map Prod.fst)
  have sameKeys := (List.perm_ext_iff_of_nodup filledDistinct represents.orderly.distinct).mpr
    fun key => by
      rw [represents.sound.mem_filled_iff, represents.get?_eq, ne_eq,
        MemoTable.get?_eq_none_iff, not_not]
  have sameLength := sameKeys.length_eq
  rw [List.length_map, List.length_map, ← List.countP_eq_length_filter] at sameLength
  exact sameLength

theorem stats_eq (represents : cache.Represents table) : cache.stats = table.stats := by
  rw [stats, represents.hits_eq, represents.misses_eq, represents.compilations_eq]
  exact congrArg (CacheStats.mk _ _ _) represents.size_eq

section Request

variable {key : Fingerprint} (compute : Unit → Except BindError ε)

/-- A request that finds an entry changes a count and nothing else. -/
theorem of_hit
    {entry : ε}
    (represents : cache.Represents table)
    (known : table.get? key = some entry) :
    (cache.getOrCompute key compute).1 = .ok entry ∧
      (cache.getOrCompute key compute).2.Represents (table.note .table) := by
  obtain ⟨hits, misses, compilations⟩ := counters_fetchSlot cache key
  rw [getOrCompute_eq, represents.get?_eq, known]
  refine ⟨rfl, (represents.sound.fetchSlot key).countHit, represents.orderly.note nofun,
    fun other => (get?_fetchSlot cache key other).trans (represents.get?_eq other), ?_, ?_, ?_⟩
  · rw [MemoTable.stats_note, ← represents.hits_eq, ← hits]
    rfl
  · rw [MemoTable.stats_note, ← represents.misses_eq, ← misses]
    rfl
  · rw [MemoTable.stats_note, ← represents.compilations_eq, ← compilations]
    rfl

/-- A request that finds no entry is answered by its computation. -/
theorem of_miss
    (represents : cache.Represents table)
    (unknown : table.get? key = none) :
    (cache.getOrCompute key compute).1 = compute () ∧
      (cache.getOrCompute key compute).2.Represents (table.settle key (compute ())) := by
  have isUnknown : cache.get? key = none := (represents.get?_eq key).trans unknown
  obtain ⟨hits, misses, compilations⟩ := counters_fetchSlot cache key
  have result : (cache.getOrCompute key compute).1 = _ := fst_getOrCompute key compute
  have sound := represents.sound.getOrCompute key compute
  have entries := get?_getOrCompute represents.sound key compute
  have orderly := represents.orderly.settle unknown (compute ())
  rw [isUnknown, answer] at result entries
  refine ⟨result, sound, orderly, fun other => ?_, ?_, ?_, ?_⟩
  · rw [entries, represents.get?_eq, MemoTable.get?_settle unknown]
  all_goals
    rw [getOrCompute_eq, isUnknown]
    cases compute () <;> rw [MemoTable.settle, MemoTable.stats_note]
  · exact hits.trans represents.hits_eq
  · exact hits.trans represents.hits_eq
  · exact congrArg (· + 1) (misses.trans represents.misses_eq)
  · exact congrArg (· + 1) (misses.trans represents.misses_eq)
  · exact compilations.trans represents.compilations_eq
  · exact congrArg (· + 1) (compilations.trans represents.compilations_eq)

end Request
end Represents

/-- The cache and the memo table reply alike. -/
theorem simulates_memoTable (κ ε : Type) :
    (memoStore κ ε).Simulates (MemoTable.store κ ε) Represents where
  stats_eq := Represents.stats_eq
  clear {cache _} _ := represents_of_clear cache
  get {cache table} represents key compute state := by
    change ∃ answer changed otherChanged final,
      cache.getOrComputeWith key compute state = _ ∧ table.get key compute state = _ ∧ _
    rw [getOrComputeWith_eq, MemoTable.get, represents.get?_eq]
    cases known : table.get? key with
    | some entry =>
        obtain ⟨result, represented⟩ := represents.of_hit _ known
        exact ⟨_, _, _, _, rfl, by rw [result]; rfl, represented⟩
    | none =>
        obtain ⟨result, represented⟩ := represents.of_miss (fun _ => (compute state).1) known
        exact ⟨_, _, _, _, rfl, by rw [result]; rfl, represented⟩

/--
Operations on a cache are answered as a memo table answers them.

The replies are the same, with the counters behind each operation, and so is what the
computations leave of their state. The computations counted are as many as the entries.
-/
theorem run_memoStore (operations : List (MemoOperation κ ε)) (state : κ) :
    (memoStore κ ε).run operations {} state = (MemoTable.store κ ε).run operations {} state ∧
      ∀ reply ∈ ((memoStore κ ε).run operations {} state).1,
        reply.stats.compilations = reply.stats.size := by
  have represents : ({} : BindingCache ε).Represents {} := represents_of_clear {}
  have sameReplies := congrFun ((simulates_memoTable κ ε).run_eq operations represents) state
  refine ⟨sameReplies, fun reply member => ?_⟩
  rw [sameReplies] at member
  exact MemoStore.lawful_of_mem_run (fun stats => stats.compilations = stats.size)
    (fun (table : MemoTable ε) (orderly : table.Orderly) => orderly.computed_eq)
    (fun operation _ state orderly => orderly.perform operation state)
    operations {} state MemoTable.orderly_empty reply member

end BindingCache
end RowBinding
