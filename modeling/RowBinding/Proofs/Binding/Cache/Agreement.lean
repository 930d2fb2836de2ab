import Mathlib.Logic.Function.Basic
import RowBinding.Proofs.Binding.Cache.Interleaving

/-!
# Requests that agree on an entry

Requests for one key need not return one entry. A request whose computation
fails drops its slot while others wait for it, and a request that arrives then
makes a second slot for the key; the two slots are filled independently.

The entries agree in every interleaving exactly when this cannot be seen:
either every computation for the key succeeds, so that its first slot stays, or
all the computations for the key that succeed yield the same entry.
-/

namespace RowBinding
namespace BindingCache
namespace Shared

variable {ε : Type}

/-- The requests that computed came to the outcomes given for their positions. -/
def Follows (shared : Shared ε) (outcome : Nat → Except BindError ε) : Prop :=
  ∀ {position : Nat} {request : Request ε} {result : Except BindError ε},
    shared.requests[position]? = some request → request.missed = true →
      request.phase.settled? = some result → result = outcome position

/-- All entries that requests for a key have returned are the same. -/
def Agrees (shared : Shared ε) (key : Fingerprint) : Prop :=
  ∀ first ∈ shared.requests, ∀ second ∈ shared.requests,
    first.key = key → second.key = key →
      ∀ {one other : ε}, first.phase.result? = some (.ok one) →
        second.phase.result? = some (.ok other) → one = other

theorem Reaches.keys_eq
    {first last : Shared ε}
    (run : Shared.Reaches first last) :
    last.requests.map Request.key = first.requests.map Request.key := by
  induction run with
  | refl => rfl
  | tail run step inductionHypothesis =>
      rw [← inductionHypothesis]
      cases step with
      | request position earlier later moved found moves =>
          apply List.ext_getElem?
          intro other
          rw [List.getElem?_map, List.getElem?_map]
          cases isOther : (List.set _ position later)[other]? with
          | none =>
              rw [List.getElem?_eq_none_iff, List.length_set] at isOther
              rw [List.getElem?_eq_none isOther]
          | some request =>
              rcases getElem?_set_cases isOther with ⟨rfl, rfl⟩ | ⟨_, unmoved⟩
              · rw [found]
                exact congrArg some moves.key_eq
              · rw [unmoved]

/-- The requests of a run are for the keys that it starts with. -/
theorem Reaches.map_key
    {cache : BindingCache ε}
    {keys : List Fingerprint}
    {shared : Shared ε}
    (run : Shared.Reaches (start cache keys) shared) :
    shared.requests.map Request.key = keys :=
  run.keys_eq.trans (List.map_map.trans (List.map_id keys))

theorem settled?_of_result?
    {phase : RequestPhase ε}
    {result : Except BindError ε}
    (returned : phase.result? = some result) :
    phase.settled? = some result := by
  cases phase with
  | returned => exact returned
  | _ => cases returned

/-- Outcomes that a state follows were followed before. -/
theorem Follows.before_step
    {shared next : Shared ε}
    {outcome : Nat → Except BindError ε}
    (follows : next.Follows outcome)
    (step : Shared.Step shared next) :
    shared.Follows outcome := by
  intro other request result isOther missed settled
  cases step with
  | request position earlier later moved found moves =>
      obtain ⟨after, isAfter, _, goesOn, keeps⟩ := exists_after_step found moves isOther
      exact follows isAfter (goesOn missed) (keeps settled)

/-! ## Entries come from computations -/

/-- One of the requests for a key computes the entry. -/
def Yields
    (keys : List Fingerprint)
    (outcome : Nat → Except BindError ε)
    (key : Fingerprint)
    (entry : ε) : Prop :=
  ∃ position, keys[position]? = some key ∧ outcome position = .ok entry

/-- Every entry that is kept or returned comes from a computation for its key. -/
structure Sourced
    (shared : Shared ε)
    (keys : List Fingerprint)
    (outcome : Nat → Except BindError ε) : Prop where
  kept : ∀ {key : Fingerprint} {slot : Nat} {entry : ε}, shared.Holds key slot →
    shared.cache.content? slot = some entry → Yields keys outcome key entry
  settled : ∀ {position : Nat} {request : Request ε} {entry : ε},
    shared.requests[position]? = some request →
      request.phase.settled? = some (.ok entry) → Yields keys outcome request.key entry

theorem Sourced.step
    {shared next : Shared ε}
    {keys : List Fingerprint}
    {outcome : Nat → Except BindError ε}
    (sourced : shared.Sourced keys outcome)
    (wellFormed : shared.WellFormed)
    (isKeys : shared.requests.map Request.key = keys)
    (follows : next.Follows outcome)
    (step : Shared.Step shared next) :
    next.Sourced keys outcome := by
  cases step with
  | request position earlier later moved found moves =>
      refine ⟨fun {key slot entry} holds filled => ?_,
        fun {other request entry} isOther settled => ?_⟩
      · rcases holds.before_step found moves with known | ⟨rfl, rfl, inRange⟩
        · rcases moves.content?_or_filling filled with kept | filling
          · exact sourced.kept known kept
          · have own : shared.Holds earlier.key slot :=
              .of_request found (by rw [filling]; rfl)
            rw [wellFormed.owned known own]
            exact sourced.settled found (by rw [filling]; rfl)
        · rcases moves.content?_or_filling filled with kept | filling
          · exact absurd (lt_length_of_content? kept) (Nat.lt_irrefl _)
          · exact sourced.settled found (by rw [filling]; rfl)
      · rcases getElem?_set_cases isOther with ⟨rfl, rfl⟩ | ⟨_, unmoved⟩
        · rw [moves.key_eq]
          rcases moves.settled?_or_comes settled with
            before | ⟨slot, content, holds, filled, same⟩ | ⟨slot, computing⟩
          · exact sourced.settled found before
          · cases same
            exact sourced.kept (.of_request found holds) filled
          · have fits := wellFormed.fits earlier (List.mem_of_getElem? found)
            rw [Request.Fits, computing] at fits
            refine ⟨_, ?_, (follows isOther (moves.missed_of_missed fits.1) settled).symm⟩
            rw [← isKeys, List.getElem?_map, found]
            rfl
        · exact sourced.settled unmoved settled

theorem sourced_of_reaches
    {keys : List Fingerprint}
    {outcome : Nat → Except BindError ε}
    {shared : Shared ε}
    (run : Shared.Reaches (start {} keys) shared)
    (follows : shared.Follows outcome) :
    shared.Sourced keys outcome := by
  induction run with
  | refl =>
      refine ⟨fun _ filled => ?_, fun found settled => ?_⟩
      · cases filled
      · obtain ⟨key, _, rfl⟩ := List.mem_map.mp (List.mem_of_getElem? found)
        cases settled
  | @tail middle last run step inductionHypothesis =>
      exact (inductionHypothesis (follows.before_step step)).step
        ((wellFormed_start keys).reaches run) run.map_key follows step

/-- Entries for a key agree if all computations for it yield the same one. -/
theorem Sourced.agrees
    {shared : Shared ε}
    {keys : List Fingerprint}
    {outcome : Nat → Except BindError ε}
    {key : Fingerprint}
    (sourced : shared.Sourced keys outcome)
    (same : ∀ {one other : ε},
      Yields keys outcome key one → Yields keys outcome key other → one = other) :
    shared.Agrees key := by
  intro first isFirst second isSecond ofFirst ofSecond one other returnsOne returnsOther
  obtain ⟨position, foundFirst⟩ := List.mem_iff_getElem?.mp isFirst
  obtain ⟨place, foundSecond⟩ := List.mem_iff_getElem?.mp isSecond
  have yieldsOne := sourced.settled foundFirst (settled?_of_result? returnsOne)
  have yieldsOther := sourced.settled foundSecond (settled?_of_result? returnsOther)
  rw [ofFirst] at yieldsOne
  rw [ofSecond] at yieldsOther
  exact same yieldsOne yieldsOther

/-! ## A key without failures -/

/-- No computation for the key has failed. -/
def Spotless (shared : Shared ε) (key : Fingerprint) : Prop :=
  ∀ request ∈ shared.requests, request.key = key →
    ∀ error, request.phase.settled? ≠ some (.error error)

/-- The key is mapped to a slot with the entry. -/
def Keeps (shared : Shared ε) (key : Fingerprint) (entry : ε) : Prop :=
  ∃ slot, (key, slot) ∈ shared.cache.mapping ∧ shared.cache.content? slot = some entry

/-- All requests for the key use the slot that it is mapped to. -/
structure Steady (shared : Shared ε) (key : Fingerprint) : Prop where
  mapped : ∀ {request : Request ε} {slot : Nat}, request ∈ shared.requests →
    request.key = key → request.phase.slot? = some slot →
      (key, slot) ∈ shared.cache.mapping
  delivered : ∀ {request : Request ε} {entry : ε}, request ∈ shared.requests →
    request.key = key → request.phase.settled? = some (.ok entry) →
      (∃ slot, request.phase = .filling slot entry) ∨ shared.Keeps key entry

section Step

variable
  {shared : Shared ε}
  {key : Fingerprint}
  {position : Nat}
  {earlier later : Request ε}
  {moved : BindingCache ε}

theorem Spotless.before_step
    (found : shared.requests[position]? = some earlier)
    (moves : Request.Step shared.IsFree shared.cache earlier moved later)
    (spotless : Spotless ⟨moved, shared.requests.set position later⟩ key) :
    shared.Spotless key := by
  intro request member ofKey error settled
  obtain ⟨other, isOther⟩ := List.mem_iff_getElem?.mp member
  obtain ⟨after, isAfter, sameKey, _, keeps⟩ := exists_after_step found moves isOther
  exact spotless after (List.mem_of_getElem? isAfter) (sameKey.trans ofKey) error
    (keeps settled)

/-- A key without failures stays mapped. -/
theorem Spotless.mem_mapping
    {slot : Nat}
    (spotless : shared.Spotless key)
    (found : shared.requests[position]? = some earlier)
    (moves : Request.Step shared.IsFree shared.cache earlier moved later)
    (mapped : (key, slot) ∈ shared.cache.mapping) :
    (key, slot) ∈ moved.mapping := by
  rcases moves.mem_mapping_or_drops mapped with kept | ⟨error, drops, ofKey⟩
  · exact kept
  · exact absurd (congrArg RequestPhase.settled? drops)
      (spotless earlier (List.mem_of_getElem? found) ofKey.symm error)

theorem Keeps.step
    {entry : ε}
    (keeps : shared.Keeps key entry)
    (spotless : shared.Spotless key)
    (fits : earlier.Fits shared.cache)
    (found : shared.requests[position]? = some earlier)
    (moves : Request.Step shared.IsFree shared.cache earlier moved later) :
    Keeps ⟨moved, shared.requests.set position later⟩ key entry := by
  obtain ⟨slot, mapped, filled⟩ := keeps
  exact ⟨slot, spotless.mem_mapping found moves mapped,
    moves.content?_of_content? fits filled⟩

/-- A result that the moved request has come to is kept under its key. -/
theorem Steady.delivered_of_step
    {entry : ε}
    (steady : shared.Steady key)
    (spotless : shared.Spotless key)
    (wellFormed : shared.WellFormed)
    (found : shared.requests[position]? = some earlier)
    (moves : Request.Step shared.IsFree shared.cache earlier moved later)
    (ofKey : earlier.key = key)
    (settled : later.phase.settled? = some (.ok entry)) :
    (∃ slot, later.phase = .filling slot entry) ∨
      Keeps ⟨moved, shared.requests.set position later⟩ key entry := by
  have isEarlier := List.mem_of_getElem? found
  have fits := wellFormed.fits earlier isEarlier
  rcases moves.settled?_or_comes settled with
    before | ⟨slot, content, holds, filled, same⟩ | ⟨slot, computing⟩
  · rcases steady.delivered isEarlier ofKey before with ⟨slot, filling⟩ | keeps
    · have holds : earlier.phase.slot? = some slot := by
        rw [filling]
        rfl
      have inRange := wellFormed.inRange (.of_request found holds)
      refine .inr ⟨slot,
        spotless.mem_mapping found moves (steady.mapped isEarlier ofKey holds), ?_⟩
      rw [moves.moved_of_filling filling]
      exact content?_fillSlot_self inRange entry
    · exact .inr (keeps.step spotless fits found moves)
  · cases same
    have keeps : shared.Keeps key entry :=
      ⟨slot, steady.mapped isEarlier ofKey holds, filled⟩
    exact .inr (keeps.step spotless fits found moves)
  · exact .inl ⟨slot, moves.filling_of_computing computing settled⟩

theorem Steady.step
    (steady : shared.Steady key)
    (spotless : shared.Spotless key)
    (wellFormed : shared.WellFormed)
    (found : shared.requests[position]? = some earlier)
    (moves : Request.Step shared.IsFree shared.cache earlier moved later) :
    Steady ⟨moved, shared.requests.set position later⟩ key := by
  have isEarlier := List.mem_of_getElem? found
  refine ⟨fun {request slot} member ofKey holds => ?_,
    fun {request entry} member ofKey settled => ?_⟩
  · rcases List.mem_or_eq_of_mem_set member with unmoved | rfl
    · exact spotless.mem_mapping found moves (steady.mapped unmoved ofKey holds)
    · rcases moves.slot?_held_or_mapped holds with held | mapped
      · exact spotless.mem_mapping found moves
          (steady.mapped isEarlier (moves.key_eq.symm.trans ofKey) held)
      · exact ofKey ▸ mapped
  · rcases List.mem_or_eq_of_mem_set member with unmoved | rfl
    · exact (steady.delivered unmoved ofKey settled).imp_right
        fun keeps => keeps.step spotless (wellFormed.fits earlier isEarlier) found moves
    · exact steady.delivered_of_step spotless wellFormed found moves
        (moves.key_eq.symm.trans ofKey) settled

end Step

/-- As long as no computation for a key fails, its requests share one slot. -/
theorem steady_of_reaches
    {keys : List Fingerprint}
    {key : Fingerprint}
    {shared : Shared ε}
    (run : Shared.Reaches (start {} keys) shared)
    (spotless : shared.Spotless key) :
    shared.Steady key := by
  induction run with
  | refl =>
      refine ⟨fun member _ holds => ?_, fun member _ settled => ?_⟩
      · obtain ⟨_, _, rfl⟩ := List.mem_map.mp member
        cases holds
      · obtain ⟨_, _, rfl⟩ := List.mem_map.mp member
        cases settled
  | tail run step inductionHypothesis =>
      cases step with
      | request position earlier later moved found moves =>
          have spotlessBefore := spotless.before_step found moves
          exact (inductionHypothesis spotlessBefore).step spotlessBefore
            ((wellFormed_start keys).reaches run) found moves

theorem Steady.agrees
    {shared : Shared ε}
    {key : Fingerprint}
    (steady : shared.Steady key)
    (once : shared.cache.MapsOnce) :
    shared.Agrees key := by
  have keeps {request : Request ε} {entry : ε}
      (member : request ∈ shared.requests)
      (ofKey : request.key = key)
      (returns : request.phase.result? = some (.ok entry)) : shared.Keeps key entry := by
    rcases steady.delivered member ofKey (settled?_of_result? returns) with
      ⟨slot, filling⟩ | keeps
    · rw [filling] at returns
      cases returns
    · exact keeps
  intro first isFirst second isSecond ofFirst ofSecond one other returnsOne returnsOther
  obtain ⟨slot, mapped, filled⟩ := keeps isFirst ofFirst returnsOne
  obtain ⟨place, mappedOther, filledOther⟩ := keeps isSecond ofSecond returnsOther
  rw [once.unique mapped mappedOther, filledOther] at filled
  exact (Option.some.inj filled).symm

/-! ## Two slots for one key -/

/-- Requests that have come as far as given for their positions. -/
def arranged
    (cache : BindingCache ε)
    (keys : List Fingerprint)
    (progress : Nat → RequestPhase ε × Bool) : Shared ε :=
  ⟨cache, keys.mapIdx fun position key =>
    ⟨key, (progress position).1, (progress position).2⟩⟩

theorem start_eq_arranged (cache : BindingCache ε) (keys : List Fingerprint) :
    start cache keys = arranged cache keys fun _ => (.arriving, false) := by
  rw [start, arranged]
  congr 1
  apply List.ext_getElem?
  intro position
  simp

/-- No request has locked a slot. -/
def Idle (progress : Nat → RequestPhase ε × Bool) : Prop :=
  ∀ position, (progress position).1.locked? = none

theorem Idle.update
    {progress : Nat → RequestPhase ε × Bool}
    {position : Nat}
    {later : RequestPhase ε × Bool}
    (idle : Idle progress)
    (unlocked : later.1.locked? = none) :
    Idle (Function.update progress position later) := by
  intro other
  by_cases same : other = position
  · rw [same, Function.update_self]
    exact unlocked
  · rw [Function.update_of_ne same]
    exact idle other

section Arranged

variable
  {first : Shared ε}
  {cache moved : BindingCache ε}
  {keys : List Fingerprint}
  {progress : Nat → RequestPhase ε × Bool}
  {position slot : Nat}
  {key : Fingerprint}

theorem getElem?_arranged
    (found : keys[position]? = some key) :
    (arranged cache keys progress).requests[position]? =
      some ⟨key, (progress position).1, (progress position).2⟩ := by
  rw [arranged, List.getElem?_mapIdx, found]
  rfl

theorem Idle.isFree
    (idle : Idle progress)
    (slot : Nat) :
    (arranged cache keys progress).IsFree slot := by
  intro request member
  obtain ⟨other, _, rfl⟩ := List.mem_mapIdx.mp member
  simp [idle other]

theorem set_arranged
    (found : keys[position]? = some key)
    (later : RequestPhase ε)
    (missed : Bool) :
    (arranged cache keys progress).requests.set position ⟨key, later, missed⟩ =
      (arranged cache keys (Function.update progress position (later, missed))).requests := by
  apply List.ext_getElem?
  intro other
  by_cases same : position = other
  · subst same
    have inRange : position < (arranged cache keys progress).requests.length :=
      (List.getElem?_eq_some_iff.mp (getElem?_arranged found)).1
    rw [List.getElem?_set_self inRange, getElem?_arranged found, Function.update_self]
  · rw [List.getElem?_set_ne same, arranged, arranged, List.getElem?_mapIdx,
      List.getElem?_mapIdx, Function.update_of_ne (Ne.symm same)]

/-- A request moves on while the others stay where they are. -/
theorem Reaches.move
    {phase later : RequestPhase ε}
    {missed laterMissed : Bool}
    (run : Shared.Reaches first (arranged cache keys progress))
    (found : keys[position]? = some key)
    (stands : progress position = (phase, missed))
    (moves : Request.Step (arranged cache keys progress).IsFree cache ⟨key, phase, missed⟩
      moved ⟨key, later, laterMissed⟩) :
    Shared.Reaches first
      (arranged moved keys (Function.update progress position (later, laterMissed))) := by
  have isEarlier : (arranged cache keys progress).requests[position]? =
      some ⟨key, phase, missed⟩ := by
    rw [getElem?_arranged found, stands]
  have next := run.tail (.request _ position _ _ moved isEarlier moves)
  rw [set_arranged found] at next
  exact next

theorem Reaches.fetch
    (run : Shared.Reaches first (arranged cache keys progress))
    (found : keys[position]? = some key)
    (arrives : progress position = (.arriving, false))
    (fetches : cache.fetchSlot key = (slot, moved)) :
    Shared.Reaches first
      (arranged moved keys (Function.update progress position (.waiting slot, false))) := by
  have waits := run.move found arrives (.fetch cache key false)
  rw [fetches] at waits
  exact waits

/-- A request that waits for an empty slot can fail and return. -/
theorem Reaches.fail
    (run : Shared.Reaches first (arranged cache keys progress))
    (found : keys[position]? = some key)
    (waits : progress position = (.waiting slot, false))
    (idle : Idle progress)
    (empty : cache.content? slot = none)
    (error : BindError) :
    Shared.Reaches first
      (arranged (cache.countMiss.dropSlot key slot) keys
        (Function.update progress position (.returned (.error error), true))) := by
  have checks := run.move found waits (.lock cache key false slot (idle.isFree slot))
  have computes := checks.move found (Function.update_self ..)
    (.miss cache key false slot empty)
  have fails := computes.move found (Function.update_self ..) (.fail _ key true slot error)
  have drops := fails.move found (Function.update_self ..) (.drop _ key true slot error)
  have returns := drops.move found (Function.update_self ..)
    (.release _ key true slot (.error error))
  simpa only [Function.update_idem] using returns

/-- A request that waits for an empty slot can fill it and return. -/
theorem Reaches.succeed
    (run : Shared.Reaches first (arranged cache keys progress))
    (found : keys[position]? = some key)
    (waits : progress position = (.waiting slot, false))
    (idle : Idle progress)
    (empty : cache.content? slot = none)
    (entry : ε) :
    Shared.Reaches first
      (arranged ((cache.countMiss.fillSlot slot entry).mapSlot key slot) keys
        (Function.update progress position (.returned (.ok entry), true))) := by
  have checks := run.move found waits (.lock cache key false slot (idle.isFree slot))
  have computes := checks.move found (Function.update_self ..)
    (.miss cache key false slot empty)
  have yields := computes.move found (Function.update_self ..)
    (.succeed _ key true slot entry)
  have fills := yields.move found (Function.update_self ..) (.fill _ key true slot entry)
  have maps := fills.move found (Function.update_self ..) (.map _ key true slot entry)
  have returns := maps.move found (Function.update_self ..)
    (.release _ key true slot (.ok entry))
  simpa only [Function.update_idem] using returns

end Arranged

/-- The progress of one request that failed, and of two that filled a slot each. -/
def splitProgress
    (failing waiting late : Nat)
    (error : BindError)
    (one other : ε) : Nat → RequestPhase ε × Bool :=
  Function.update
    (Function.update
      (Function.update (fun _ => (.arriving, false)) failing
        (.returned (.error error), true))
      waiting (.returned (.ok one), true))
    late (.returned (.ok other), true)

/-- After a failure, a request that waited and a request that arrived since then
fill two slots of one key. -/
theorem exists_reaches_splitProgress
    {keys : List Fingerprint}
    {key : Fingerprint}
    {failing waiting late : Nat}
    (isFailing : keys[failing]? = some key)
    (isWaiting : keys[waiting]? = some key)
    (isLate : keys[late]? = some key)
    (waitingOther : waiting ≠ failing)
    (lateOther : late ≠ failing)
    (different : late ≠ waiting)
    (error : BindError)
    (one other : ε) :
    ∃ cache, Shared.Reaches (start {} keys)
      (arranged cache keys (splitProgress failing waiting late error one other)) := by
  have starts : Shared.Reaches (start {} keys)
      (arranged ({} : BindingCache ε) keys fun _ => (.arriving, false)) := by
    rw [start_eq_arranged]
    exact .refl _
  have idle : Idle fun _ : Nat => ((.arriving, false) : RequestPhase ε × Bool) :=
    fun _ => rfl
  -- The first two requests fetch the same slot.
  let oneSlot : BindingCache ε := { slots := [none], mapping := [(key, 0)] }
  have isMapped : oneSlot.slot? key = some 0 := List.lookup_cons_self
  have firstFetches := starts.fetch isFailing rfl (show _ = (0, oneSlot) from rfl)
  have bothFetch := firstFetches.fetch isWaiting (Function.update_of_ne waitingOther ..)
    (fetchSlot_of_mapped isMapped)
  have fails := bothFetch.fail isFailing
    (by rw [Function.update_of_ne (Ne.symm waitingOther), Function.update_self])
    ((idle.update rfl).update rfl) rfl error
  -- The slot is dropped, so the last request makes another one.
  have dropped : oneSlot.countMiss.dropSlot key 0 = { slots := [none], misses := 1 } := by
    simp [oneSlot, countMiss, dropSlot]
  rw [dropped] at fails
  let twoSlots : BindingCache ε :=
    { slots := [none, none], mapping := [(key, 1)], misses := 1 }
  have lateFetches := fails.fetch isLate
    (by rw [Function.update_of_ne lateOther, Function.update_of_ne different,
      Function.update_of_ne lateOther])
    (show _ = (1, twoSlots) from rfl)
  have succeeds := lateFetches.succeed isWaiting
    (by rw [Function.update_of_ne (Ne.symm different), Function.update_of_ne waitingOther,
      Function.update_self])
    ((((idle.update rfl).update rfl).update rfl).update rfl) rfl one
  let filled : BindingCache ε := (twoSlots.countMiss.fillSlot 0 one).mapSlot key 0
  have stillEmpty : filled.content? 1 = none := by
    rw [content?, slots_mapSlot]
    rfl
  have lateSucceeds := succeeds.succeed isLate
    (by rw [Function.update_of_ne different, Function.update_self])
    (((((idle.update rfl).update rfl).update rfl).update rfl).update rfl) stillEmpty other
  refine ⟨(filled.countMiss.fillSlot 1 other).mapSlot key 1, ?_⟩
  convert lateSucceeds using 2
  funext position
  simp only [splitProgress, Function.update_apply]
  split_ifs <;> rfl

theorem follows_splitProgress
    {cache : BindingCache ε}
    {keys : List Fingerprint}
    {failing waiting late : Nat}
    {error : BindError}
    {one other : ε}
    {outcome : Nat → Except BindError ε}
    (fails : outcome failing = .error error)
    (yields : outcome waiting = .ok one)
    (yieldsLate : outcome late = .ok other) :
    (arranged cache keys (splitProgress failing waiting late error one other)).Follows
      outcome := by
  intro position request result isRequest missed settled
  rw [arranged, List.getElem?_mapIdx, Option.map_eq_some_iff] at isRequest
  obtain ⟨key, _, rfl⟩ := isRequest
  simp only [splitProgress, Function.update_apply] at missed settled
  split_ifs at missed settled with isLate isWaiting isFailing
  · cases settled
    rw [isLate, yieldsLate]
  · cases settled
    rw [isWaiting, yields]
  · cases settled
    rw [isFailing, fails]

theorem Agrees.eq_of_splitProgress
    {cache : BindingCache ε}
    {keys : List Fingerprint}
    {key : Fingerprint}
    {failing waiting late : Nat}
    {error : BindError}
    {one other : ε}
    (agrees : (arranged cache keys
      (splitProgress failing waiting late error one other)).Agrees key)
    (isWaiting : keys[waiting]? = some key)
    (isLate : keys[late]? = some key)
    (different : late ≠ waiting) :
    one = other := by
  have returnsOne : splitProgress failing waiting late error one other waiting =
      (.returned (.ok one), true) := by
    rw [splitProgress, Function.update_of_ne (Ne.symm different), Function.update_self]
  have returnsOther : splitProgress failing waiting late error one other late =
      (.returned (.ok other), true) := Function.update_self ..
  exact agrees _ (List.mem_of_getElem? (getElem?_arranged isWaiting))
    _ (List.mem_of_getElem? (getElem?_arranged isLate)) rfl rfl
    (by rw [returnsOne]; rfl) (by rw [returnsOther]; rfl)

/-! ## When requests agree -/

/-- The entries for a key agree in every interleaving exactly when all of its
computations succeed, or all that succeed yield the same entry. -/
theorem agrees_iff
    (keys : List Fingerprint)
    (outcome : Nat → Except BindError ε)
    (key : Fingerprint) :
    (∀ shared, Shared.Reaches (start {} keys) shared → shared.Follows outcome →
        shared.Agrees key) ↔
      (∀ position, keys[position]? = some key → ∃ entry, outcome position = .ok entry) ∨
        ∀ one other, Yields keys outcome key one → Yields keys outcome key other →
          one = other := by
  constructor
  · intro agree
    by_cases succeed :
        ∀ position, keys[position]? = some key → ∃ entry, outcome position = .ok entry
    · exact .inl succeed
    · -- A failure lets two slots be filled, so the entries have to be the same.
      simp only [not_forall, not_exists] at succeed
      obtain ⟨failing, isFailing, noEntry⟩ := succeed
      refine .inr ?_
      rintro one other ⟨waiting, isWaiting, yields⟩ ⟨late, isLate, yieldsLate⟩
      cases fails : outcome failing with
      | ok entry => exact absurd fails (noEntry entry)
      | error error =>
          have waitingOther : waiting ≠ failing := by
            rintro rfl
            exact noEntry one yields
          have lateOther : late ≠ failing := by
            rintro rfl
            exact noEntry other yieldsLate
          by_cases same : late = waiting
          · rw [same, yields] at yieldsLate
            exact Except.ok.inj yieldsLate
          · obtain ⟨cache, run⟩ := exists_reaches_splitProgress isFailing isWaiting isLate
              waitingOther lateOther same error one other
            have agrees := agree _ run (follows_splitProgress fails yields yieldsLate)
            exact agrees.eq_of_splitProgress isWaiting isLate same
  · intro condition shared run follows
    have wellFormed := (wellFormed_start keys).reaches run
    have isKeys : shared.requests.map Request.key = keys :=
      run.keys_eq.trans (List.map_map.trans (List.map_id keys))
    rcases condition with succeed | same
    · refine (steady_of_reaches run fun request member ofKey error settled => ?_).agrees
        wellFormed.mapsOnce
      obtain ⟨position, found⟩ := List.mem_iff_getElem?.mp member
      have missed : request.missed = true := wellFormed.missed_of_error found settled
      have isKey : keys[position]? = some key := by
        rw [← isKeys, List.getElem?_map, found, ← ofKey]
        rfl
      obtain ⟨entry, yields⟩ := succeed position isKey
      have fails := follows found missed settled
      rw [yields] at fails
      cases fails
    · exact (sourced_of_reaches run follows).agrees (same _ _)

/-- Three requests for one key can return two entries, if one of them fails. -/
theorem exists_disagreement :
    ∃ shared : Shared Nat,
      Shared.Reaches (start {} [⟨"row"⟩, ⟨"row"⟩, ⟨"row"⟩]) shared ∧
        ¬ shared.Agrees ⟨"row"⟩ := by
  let keys : List Fingerprint := [⟨"row"⟩, ⟨"row"⟩, ⟨"row"⟩]
  have isFirst : keys[0]? = some ⟨"row"⟩ := rfl
  have isSecond : keys[1]? = some ⟨"row"⟩ := rfl
  have isThird : keys[2]? = some ⟨"row"⟩ := rfl
  obtain ⟨cache, run⟩ := exists_reaches_splitProgress isFirst isSecond isThird (by decide)
    (by decide) (by decide) (.noColumns "row") 1 2
  exact ⟨_, run, fun agrees =>
    absurd (agrees.eq_of_splitProgress isSecond isThird (by decide)) (by decide)⟩

end Shared
end BindingCache
end RowBinding
