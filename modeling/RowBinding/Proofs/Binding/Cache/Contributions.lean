import RowBinding.Proofs.Binding.Cache.Retention

/-!
# What the requests for a key contribute

A run is tallied for a key: the steps of its requests, and of no others, are
counted as computations, and what they add to the counters of the cache is
added up. As long as no computation for the key fails, its requests share one
slot, so a single one of them computes and every other one is a hit.
-/

namespace RowBinding
namespace BindingCache

variable {ε : Type}

/-- The computations of some requests, and what they have added to the counters. -/
@[ext]
structure Tally where
  computations : Nat := 0
  hits : Nat := 0
  misses : Nat := 0
  compilations : Nat := 0
  deriving DecidableEq

/-- The tally after one more step, which takes the cache and a request further. -/
def Tally.add
    (tally : Tally)
    (cache moved : BindingCache ε)
    (later : Request ε) : Tally where
  computations := tally.computations + later.isComputing.toNat
  hits := tally.hits + (moved.hits - cache.hits)
  misses := tally.misses + (moved.misses - cache.misses)
  compilations := tally.compilations + (moved.compilations - cache.compilations)

/-- A run, with a tally of the steps of the requests for a key. -/
inductive Shared.Tallies (key : Fingerprint) : Shared ε → Shared ε → Tally → Prop
  | refl (shared : Shared ε) : Tallies key shared shared {}
  | own
      {first middle : Shared ε}
      {tally : Tally}
      (run : Tallies key first middle tally)
      (position : Nat)
      (earlier later : Request ε)
      (moved : BindingCache ε)
      (found : middle.requests[position]? = some earlier)
      (moves : Request.Step middle.IsFree middle.cache earlier moved later)
      (ofKey : earlier.key = key) :
      Tallies key first ⟨moved, middle.requests.set position later⟩
        (tally.add middle.cache moved later)
  | other
      {first middle : Shared ε}
      {tally : Tally}
      (run : Tallies key first middle tally)
      (position : Nat)
      (earlier later : Request ε)
      (moved : BindingCache ε)
      (found : middle.requests[position]? = some earlier)
      (moves : Request.Step middle.IsFree middle.cache earlier moved later)
      (ofOther : earlier.key ≠ key) :
      Tallies key first ⟨moved, middle.requests.set position later⟩ tally

namespace Request

/-- The request is for a key and has a property. -/
def isFor (key : Fingerprint) (property : Request ε → Bool) (request : Request ε) : Bool :=
  decide (request.key = key) && property request

theorem isFor_of_eq
    {key : Fingerprint}
    {request : Request ε}
    (ofKey : request.key = key)
    (property : Request ε → Bool) :
    request.isFor key property = property request := by
  simp [isFor, ofKey]

theorem isFor_of_ne
    {key : Fingerprint}
    {request : Request ε}
    (ofOther : request.key ≠ key)
    (property : Request ε → Bool) :
    request.isFor key property = false := by
  simp [isFor, ofOther]

/-- A request that missed is computing, or it has come to a result. -/
theorem Marked.computing_or_settled
    {request : Request ε}
    (marked : request.Marked)
    (missed : request.missed = true) :
    (∃ slot, request.phase = .computing slot) ∨
      ∃ result, request.phase.settled? = some result := by
  obtain ⟨key, phase, isMissed⟩ := request
  obtain rfl : isMissed = true := missed
  cases phase with
  | arriving | waiting slot | checking slot => cases marked
  | computing slot => exact .inl ⟨slot, rfl⟩
  | _ => exact .inr ⟨_, rfl⟩

namespace Step

variable
  {isFree : Nat → Prop}
  {cache moved : BindingCache ε}
  {earlier later : Request ε}

/-- A request is marked as a miss exactly by the step that begins its computation. -/
theorem missed_eq_add
    (moves : Request.Step isFree cache earlier moved later)
    (marked : earlier.Marked) :
    later.missed.toNat = earlier.missed.toNat + later.isComputing.toNat := by
  cases moves with
  | miss key missed slot empty =>
      obtain rfl : missed = false := marked
      rfl
  | _ => rfl

/-- A request comes to be a miss only at a slot that it found empty. -/
theorem missed_or_checks
    (moves : Request.Step isFree cache earlier moved later)
    (missed : later.missed = true) :
    earlier.missed = true ∨
      ∃ slot, earlier.phase = .checking slot ∧ cache.content? slot = none := by
  cases moves with
  | miss key wasMissed slot empty => exact .inr ⟨slot, rfl, empty⟩
  | _ => exact .inl missed

end Step
end Request

namespace Shared

/-! ## Tallies of runs -/

theorem Tallies.reaches
    {key : Fingerprint}
    {first last : Shared ε}
    {tally : Tally}
    (run : Tallies key first last tally) :
    Shared.Reaches first last := by
  induction run with
  | refl => exact .refl _
  | own run position earlier later moved found moves ofKey inductionHypothesis =>
      exact inductionHypothesis.tail (.request _ position earlier later moved found moves)
  | other run position earlier later moved found moves ofOther inductionHypothesis =>
      exact inductionHypothesis.tail (.request _ position earlier later moved found moves)

/-- Every run can be tallied. -/
theorem Reaches.exists_tallies
    {first last : Shared ε}
    (run : Shared.Reaches first last)
    (key : Fingerprint) :
    ∃ tally, Tallies key first last tally := by
  induction run with
  | refl => exact ⟨{}, .refl _⟩
  | tail run step inductionHypothesis =>
      obtain ⟨tally, tallies⟩ := inductionHypothesis
      cases step with
      | request position earlier later moved found moves =>
          by_cases ofKey : earlier.key = key
          · exact ⟨_, tallies.own position earlier later moved found moves ofKey⟩
          · exact ⟨_, tallies.other position earlier later moved found moves ofKey⟩

/-- The tally that can be read off the requests for a key. -/
def tallyOf (shared : Shared ε) (key : Fingerprint) : Tally where
  computations := shared.requests.countP (Request.isFor key Request.missed)
  hits := shared.requests.countP (Request.isFor key Request.isHit)
  misses := shared.requests.countP (Request.isFor key Request.missed)
  compilations := shared.requests.countP (Request.isFor key Request.compiled)

theorem Tallies.eq_tallyOf
    {key : Fingerprint}
    {keys : List Fingerprint}
    {shared : Shared ε}
    {tally : Tally}
    (run : Tallies key (start {} keys) shared tally) :
    tally = shared.tallyOf key := by
  induction run with
  | refl =>
      have fresh {property : Request ε → Bool}
          (unset : ∀ other, property ⟨other, .arriving, false⟩ = false) :
          (start {} keys).requests.countP (Request.isFor key property) = 0 :=
        countP_start (fun other => by simp [Request.isFor, unset]) {} keys
      rw [tallyOf, fresh fun _ => rfl, fresh fun _ => rfl, fresh fun _ => rfl]
  | @own middle tally run position earlier later moved found moves ofKey inductionHypothesis =>
      have counted := (counted_start keys).reaches run.reaches
      have marked := counted.marked earlier (List.mem_of_getElem? found)
      have laterOfKey := moves.key_eq.trans ofKey
      have changes (property : Request ε → Bool) :
          (middle.requests.set position later).countP (Request.isFor key property) +
              (property earlier).toNat =
            middle.requests.countP (Request.isFor key property) + (property later).toNat := by
        rw [← Request.isFor_of_eq ofKey property, ← Request.isFor_of_eq laterOfKey property]
        exact countP_set_add _ found later
      obtain ⟨⟨hits, moreHits⟩, ⟨misses, moreMisses⟩, ⟨compilations, moreCompilations⟩⟩ :=
        moves.counts marked
      have begins := moves.missed_eq_add marked
      have changesHits := changes Request.isHit
      have changesMisses := changes Request.missed
      have changesCompilations := changes Request.compiled
      rw [inductionHypothesis]
      simp only [Tally.add, tallyOf, Tally.mk.injEq]
      omega
  | @other middle tally run position earlier later moved found moves ofOther inductionHypothesis =>
      have laterOfOther : later.key ≠ key := by
        rw [moves.key_eq]
        exact ofOther
      have unchanged (property : Request ε → Bool) :
          (middle.requests.set position later).countP (Request.isFor key property) =
            middle.requests.countP (Request.isFor key property) := by
        have changes := countP_set_add (Request.isFor key property) found later
        rw [Request.isFor_of_ne ofOther, Request.isFor_of_ne laterOfOther] at changes
        exact changes
      rw [inductionHypothesis]
      simp only [tallyOf, unchanged]

/-! ## One computation for a key -/

/-- At most one request for the key has begun to compute. -/
def ComputesOnce (shared : Shared ε) (key : Fingerprint) : Prop :=
  ∀ ⦃first second : Nat⦄ ⦃one other : Request ε⦄,
    shared.requests[first]? = some one → shared.requests[second]? = some other →
      one.key = key → other.key = key → one.missed = true → other.missed = true →
        first = second

/-- The slot of a key without failures is not empty any more, if another request missed. -/
theorem Steady.content?_ne_none
    {shared : Shared ε}
    {key : Fingerprint}
    {first second slot : Nat}
    {one other : Request ε}
    (steady : shared.Steady key)
    (spotless : shared.Spotless key)
    (wellFormed : shared.WellFormed)
    (counted : shared.Counted)
    (isFirst : shared.requests[first]? = some one)
    (isSecond : shared.requests[second]? = some other)
    (different : first ≠ second)
    (ofKey : one.key = key)
    (otherOfKey : other.key = key)
    (checks : one.phase = .checking slot)
    (missed : other.missed = true) :
    shared.cache.content? slot ≠ none := by
  have isOne := List.mem_of_getElem? isFirst
  have isOther := List.mem_of_getElem? isSecond
  have mapped := steady.mapped isOne ofKey (show one.phase.slot? = some slot by rw [checks]; rfl)
  -- Only one request can have the slot of the key locked.
  have notLocked (held : Nat)
      (holds : other.phase.slot? = some held)
      (locks : other.phase.locked? = some held) : False := by
    rw [wellFormed.mapsOnce.unique (steady.mapped isOther otherOfKey holds) mapped] at locks
    exact different (wellFormed.exclusive isFirst isSecond (by rw [checks]; rfl) locks)
  rcases (counted.marked other isOther).computing_or_settled missed with
    ⟨held, computing⟩ | ⟨result, settled⟩
  · exact (notLocked held (by rw [computing]; rfl) (by rw [computing]; rfl)).elim
  · cases result with
    | error error => exact absurd settled (spotless other isOther otherOfKey error)
    | ok entry =>
        rcases steady.delivered isOther otherOfKey settled with
          ⟨held, filling⟩ | ⟨held, mappedToo, filled⟩
        · exact (notLocked held (by rw [filling]; rfl) (by rw [filling]; rfl)).elim
        · rw [wellFormed.mapsOnce.unique mapped mappedToo, filled]
          simp

theorem ComputesOnce.step
    {shared : Shared ε}
    {key : Fingerprint}
    {position : Nat}
    {earlier later : Request ε}
    {moved : BindingCache ε}
    (once : shared.ComputesOnce key)
    (steady : shared.Steady key)
    (spotless : shared.Spotless key)
    (wellFormed : shared.WellFormed)
    (counted : shared.Counted)
    (found : shared.requests[position]? = some earlier)
    (moves : Request.Step shared.IsFree shared.cache earlier moved later) :
    ComputesOnce ⟨moved, shared.requests.set position later⟩ key := by
  -- A request that missed is the one that moved, if that one has missed, too.
  have alone {place : Nat} {request : Request ε}
      (different : place ≠ position)
      (unmoved : shared.requests[place]? = some request)
      (ofKey : request.key = key)
      (laterOfKey : later.key = key)
      (missed : request.missed = true)
      (laterMissed : later.missed = true) : False := by
    have earlierOfKey := moves.key_eq.symm.trans laterOfKey
    rcases moves.missed_or_checks laterMissed with wasMissed | ⟨slot, checks, empty⟩
    · exact different (once unmoved found ofKey earlierOfKey missed wasMissed)
    · exact steady.content?_ne_none spotless wellFormed counted found unmoved (Ne.symm different)
        earlierOfKey ofKey checks missed empty
  intro first second one other isFirst isSecond ofKey otherOfKey missed otherMissed
  rcases getElem?_set_cases isFirst with ⟨rfl, rfl⟩ | ⟨moreFirst, unmovedFirst⟩
  · rcases getElem?_set_cases isSecond with ⟨rfl, _⟩ | ⟨moreSecond, unmoved⟩
    · rfl
    · exact (alone moreSecond unmoved otherOfKey ofKey otherMissed missed).elim
  · rcases getElem?_set_cases isSecond with ⟨rfl, rfl⟩ | ⟨_, unmovedSecond⟩
    · exact (alone moreFirst unmovedFirst ofKey otherOfKey missed otherMissed).elim
    · exact once unmovedFirst unmovedSecond ofKey otherOfKey missed otherMissed

theorem computesOnce_of_reaches
    {keys : List Fingerprint}
    {key : Fingerprint}
    {shared : Shared ε}
    (run : Shared.Reaches (start {} keys) shared)
    (spotless : shared.Spotless key) :
    shared.ComputesOnce key := by
  induction run with
  | refl =>
      intro first second one other isFirst _ _ _ missed _
      obtain ⟨_, _, rfl⟩ := List.mem_map.mp (List.mem_of_getElem? isFirst)
      cases missed
  | tail run step inductionHypothesis =>
      cases step with
      | request position earlier later moved found moves =>
          have spotlessBefore := spotless.before_step found moves
          exact ComputesOnce.step (inductionHypothesis spotlessBefore)
            (steady_of_reaches run spotlessBefore) spotlessBefore
            ((wellFormed_start keys).reaches run) ((counted_start keys).reaches run) found moves

/-! ## The tally of a key without failures -/

/-- A property is counted at most once if it holds at one position only. -/
theorem countP_le_one
    {requests : List (Request ε)}
    {property : Request ε → Bool}
    (unique : ∀ ⦃first second : Nat⦄ ⦃one other : Request ε⦄,
      requests[first]? = some one → requests[second]? = some other →
        property one = true → property other = true → first = second) :
    requests.countP property ≤ 1 := by
  induction requests with
  | nil => exact Nat.zero_le 1
  | cons request rest inductionHypothesis =>
      cases holds : property request with
      | true =>
          have noOther : rest.countP property = 0 := by
            rw [List.countP_eq_zero]
            intro other member holdsToo
            obtain ⟨position, found⟩ := List.mem_iff_getElem?.mp member
            have isHead : (request :: rest)[0]? = some request := rfl
            have same := unique isHead (List.getElem?_cons_succ.trans found) holds holdsToo
            exact absurd same (Nat.succ_ne_zero position).symm
          have one : (request :: rest).countP property = 1 := by
            rw [List.countP_cons_of_pos holds, noOther]
          exact Nat.le_of_eq one
      | false =>
          rw [List.countP_cons_of_neg (by simp [holds])]
          refine inductionHypothesis fun first second one other isFirst isSecond ofOne ofOther => ?_
          exact Nat.succ.inj (unique (List.getElem?_cons_succ.trans isFirst)
            (List.getElem?_cons_succ.trans isSecond) ofOne ofOther)

theorem ComputesOnce.countP_missed_le_one
    {shared : Shared ε}
    {key : Fingerprint}
    (once : shared.ComputesOnce key) :
    shared.requests.countP (Request.isFor key Request.missed) ≤ 1 := by
  refine countP_le_one fun first second one other isFirst isSecond isOne isOther => ?_
  simp only [Request.isFor, Bool.and_eq_true, decide_eq_true_eq] at isOne isOther
  exact once isFirst isSecond isOne.1 isOther.1 isOne.2 isOther.2

/-- All requests for a key have their results. -/
def ReturnedFor (shared : Shared ε) (key : Fingerprint) : Prop :=
  ∀ request ∈ shared.requests, request.key = key → request.phase.result?.isSome

/-- When all requests for a key have returned, each of them was a hit or a miss. -/
theorem ReturnedFor.hits_add_misses
    {shared : Shared ε}
    {keys : List Fingerprint}
    {key : Fingerprint}
    (returned : shared.ReturnedFor key)
    (run : Shared.Reaches (start {} keys) shared) :
    (shared.tallyOf key).hits + (shared.tallyOf key).misses = keys.count key := by
  rw [← run.map_key, List.count, List.countP_map, eq_comm]
  refine countP_eq_add fun request member => ?_
  by_cases ofKey : request.key = key
  · rw [Request.isFor_of_eq ofKey, Request.isFor_of_eq ofKey,
      Request.isHit_add_missed (returned request member ofKey)]
    simp [ofKey]
  · rw [Request.isFor_of_ne ofKey, Request.isFor_of_ne ofKey]
    simp [ofKey]

/-- When all requests for a key have returned and none failed, each miss has compiled. -/
theorem ReturnedFor.misses_eq_compilations
    {shared : Shared ε}
    {keys : List Fingerprint}
    {key : Fingerprint}
    (returned : shared.ReturnedFor key)
    (spotless : shared.Spotless key)
    (run : Shared.Reaches (start {} keys) shared) :
    (shared.tallyOf key).misses = (shared.tallyOf key).compilations := by
  refine List.countP_congr fun request member => ?_
  by_cases ofKey : request.key = key
  · have marked := ((counted_start keys).reaches run).marked request member
    have splits := Request.missed_eq_compiled_add_failed marked (returned request member ofKey)
    have notFailed : request.failed = false := by
      unfold Request.failed
      split
      · exact absurd ‹_› (spotless request member ofKey _)
      · rfl
    have same : request.missed = request.compiled := by
      cases isMissed : request.missed <;> cases isCompiled : request.compiled <;>
        simp [isMissed, isCompiled, notFailed] at splits ⊢
    rw [Request.isFor_of_eq ofKey, Request.isFor_of_eq ofKey, same]
  · rw [Request.isFor_of_ne ofKey, Request.isFor_of_ne ofKey]

/-- When all requests for a key have returned and none failed, one of them computed. -/
theorem ReturnedFor.misses_pos
    {shared : Shared ε}
    {keys : List Fingerprint}
    {key : Fingerprint}
    (returned : shared.ReturnedFor key)
    (spotless : shared.Spotless key)
    (run : Shared.Reaches (start {} keys) shared)
    (asked : key ∈ keys) :
    0 < (shared.tallyOf key).misses := by
  rw [← run.map_key] at asked
  obtain ⟨request, member, ofKey⟩ := List.mem_map.mp asked
  obtain ⟨result, returns⟩ := Option.isSome_iff_exists.mp (returned request member ofKey)
  have settled := settled?_of_result? returns
  cases result with
  | error error => exact absurd settled (spotless request member ofKey error)
  | ok entry =>
      obtain ⟨position, found⟩ := List.mem_iff_getElem?.mp member
      have yields := (sourced_of_reaches run shared.follows_outcomes).settled found settled
      obtain ⟨source, isSource, sameKey, missed, _⟩ := exists_missed_of_yields run yields
      refine List.countP_pos_iff.mpr ⟨source, isSource, ?_⟩
      rw [Request.isFor_of_eq (sameKey.trans ofKey), missed]

/-- If no computation for a key fails, at most one is begun in any interleaving, and
when the requests for the key have returned, it was one miss and all the others hits. -/
theorem tally_of_spotless
    {keys : List Fingerprint}
    {key : Fingerprint}
    {shared : Shared ε}
    {tally : Tally}
    (asked : key ∈ keys)
    (run : Tallies key (start {} keys) shared tally)
    (spotless : shared.Spotless key) :
    tally.computations ≤ 1 ∧
      (shared.ReturnedFor key →
        tally = { computations := 1, hits := keys.count key - 1, misses := 1,
                  compilations := 1 }) := by
  have once : (shared.tallyOf key).misses ≤ 1 :=
    (computesOnce_of_reaches run.reaches spotless).countP_missed_le_one
  rw [run.eq_tallyOf]
  refine ⟨once, fun returned => ?_⟩
  have every := returned.hits_add_misses run.reaches
  have compiled := returned.misses_eq_compilations spotless run.reaches
  have begun := returned.misses_pos spotless run.reaches asked
  have one : (shared.tallyOf key).misses = 1 := Nat.le_antisymm once begun
  rw [one] at every compiled
  ext
  · exact one
  · exact Nat.eq_sub_of_add_eq every
  · exact one
  · exact compiled.symm

/-- A request that waits for a filled slot can return its entry. -/
theorem Reaches.hit
    {first : Shared ε}
    {cache : BindingCache ε}
    {keys : List Fingerprint}
    {progress : Nat → RequestPhase ε × Bool}
    {position slot : Nat}
    {key : Fingerprint}
    {entry : ε}
    (run : Shared.Reaches first (arranged cache keys progress))
    (found : keys[position]? = some key)
    (waits : progress position = (.waiting slot, false))
    (idle : Idle progress)
    (filled : cache.content? slot = some entry) :
    Shared.Reaches first
      (arranged cache.countHit keys
        (Function.update progress position (.returned (.ok entry), false))) := by
  have checks := run.move found waits (.lock cache key false slot (idle.isFree slot))
  have hits := checks.move found (Function.update_self ..)
    (.hit cache key false slot entry filled)
  have returns := hits.move found (Function.update_self ..)
    (.release _ key false slot (.ok entry))
  simpa only [Function.update_idem] using returns

/-- Two requests for one key fill and find a slot, while a request for another key fails. -/
theorem exists_reaches_beside_failure
    {row other : Fingerprint}
    (different : other ≠ row)
    (error : BindError)
    (entry : ε) :
    ∃ cache : BindingCache ε, cache.misses = 2 ∧
      Shared.Reaches (start {} [row, other, row])
        ⟨cache, [⟨row, .returned (.ok entry), true⟩, ⟨other, .returned (.error error), true⟩,
          ⟨row, .returned (.ok entry), false⟩]⟩ := by
  let keys : List Fingerprint := [row, other, row]
  have isFirst : keys[0]? = some row := rfl
  have isOther : keys[1]? = some other := rfl
  have isLast : keys[2]? = some row := rfl
  have starts : Shared.Reaches (start {} keys)
      (arranged ({} : BindingCache ε) keys fun _ => (.arriving, false)) := by
    rw [start_eq_arranged]
    exact .refl _
  have idle : Idle fun _ : Nat => ((.arriving, false) : RequestPhase ε × Bool) :=
    fun _ => rfl
  let oneSlot : BindingCache ε := { slots := [none], mapping := [(row, 0)] }
  let twoSlots : BindingCache ε :=
    { slots := [none, none], mapping := [(other, 1), (row, 0)] }
  have fetchesOther : oneSlot.fetchSlot other = (1, twoSlots) := by
    have notMapped : oneSlot.slot? other = none := by
      rw [slot?_cons, if_neg different]
      rfl
    rw [fetchSlot_of_unmapped notMapped]
    rfl
  have firstFetches := starts.fetch isFirst rfl (show _ = (0, oneSlot) from rfl)
  have bothFetch := firstFetches.fetch isOther rfl fetchesOther
  have fails := bothFetch.fail isOther rfl ((idle.update rfl).update rfl) rfl error
  -- The slot of the other key is dropped, that of the row is not.
  let dropped : BindingCache ε :=
    { slots := [none, none], mapping := [(row, 0)], misses := 1 }
  have isDropped : twoSlots.countMiss.dropSlot other 1 = dropped := by
    simp [twoSlots, dropped, countMiss, dropSlot]
  rw [isDropped] at fails
  have isMapped : dropped.slot? row = some 0 := List.lookup_cons_self
  have lastFetches := fails.fetch isLast rfl (fetchSlot_of_mapped isMapped)
  have succeeds := lastFetches.succeed isFirst rfl
    ((((idle.update rfl).update rfl).update rfl).update rfl) rfl entry
  let filled : BindingCache ε :=
    { slots := [some entry, none], mapping := [(row, 0)], misses := 2, compilations := 1 }
  have isFilled : (dropped.countMiss.fillSlot 0 entry).mapSlot row 0 = filled := by
    have stillMapped : (dropped.countMiss.fillSlot 0 entry).slot? row = some 0 := isMapped
    rw [mapSlot_of_mapped stillMapped]
    rfl
  rw [isFilled] at succeeds
  have returns := succeeds.hit isLast rfl
    (((((idle.update rfl).update rfl).update rfl).update rfl).update rfl)
    (show _ = some entry from rfl)
  exact ⟨filled.countHit, rfl, returns⟩

/-- One of two requests for a key computes, while a request for another key fails. -/
theorem tally_beside_failure :
    ∃ (shared : Shared Nat) (tally : Tally),
      Tallies ⟨"row"⟩ (start {} [⟨"row"⟩, ⟨"other"⟩, ⟨"row"⟩]) shared tally ∧
        shared.AllReturned ∧ shared.cache.misses = 2 ∧
        tally = { computations := 1, hits := 1, misses := 1, compilations := 1 } := by
  obtain ⟨cache, misses, run⟩ := exists_reaches_beside_failure
    (show (⟨"other"⟩ : Fingerprint) ≠ ⟨"row"⟩ by decide) (.noColumns "other") 5
  let last : Shared Nat := ⟨cache, [⟨⟨"row"⟩, .returned (.ok 5), true⟩,
    ⟨⟨"other"⟩, .returned (.error (.noColumns "other")), true⟩,
    ⟨⟨"row"⟩, .returned (.ok 5), false⟩]⟩
  obtain ⟨tally, tallies⟩ := (show Shared.Reaches _ last from run).exists_tallies ⟨"row"⟩
  have returned : last.AllReturned := by
    simp [last, AllReturned, RequestPhase.result?]
  have spotless : last.Spotless ⟨"row"⟩ := by
    intro request member ofKey error settled
    simp only [last, List.mem_cons, List.not_mem_nil, or_false] at member
    rcases member with rfl | rfl | rfl
    · cases settled
    · exact absurd ofKey (by decide)
    · cases settled
  have counts := (tally_of_spotless (by decide) tallies spotless).2 fun request member _ =>
    returned request member
  exact ⟨last, tally, tallies, returned, misses, counts⟩

end Shared
end BindingCache
end RowBinding
