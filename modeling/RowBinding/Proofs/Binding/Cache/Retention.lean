import RowBinding.Proofs.Binding.Cache.Agreement
import RowBinding.Proofs.Binding.Cache.Counters
import RowBinding.Proofs.Binding.Cache.Table

/-!
# What a cache retains

A slot that a key is mapped to is filled once and for good: no step of a request
takes it out of the mapping, puts another entry into it or computes for it, and a
request that arrives later gets its entry. A mapped slot that is still empty is
attended by a request that will fill it or drop it, so nothing but entries is left
when all requests have returned.
-/

namespace RowBinding
namespace BindingCache

variable {ε : Type}

/-- The slot for which a request has neither found nor come to a result. -/
def RequestPhase.attended? : RequestPhase ε → Option Nat
  | .waiting slot | .checking slot | .computing slot | .dropping slot _ | .filling slot _ =>
      some slot
  | .arriving | .mapping _ _ | .releasing _ _ | .returned _ => none

theorem RequestPhase.slot?_of_attended?
    {phase : RequestPhase ε}
    {slot : Nat}
    (attends : phase.attended? = some slot) :
    phase.slot? = some slot := by
  cases phase <;> first | exact attends | cases attends

namespace Request

/-- A request gets an entry from a slot without computing. -/
structure IsServed (request : Request ε) (slot : Nat) (entry : ε) : Prop where
  notMissed : request.missed = false
  slot_eq : ∀ {held}, request.phase.slot? = some held → held = slot
  result_eq : ∀ {result}, request.phase.settled? = some result → result = .ok entry

theorem isServed_of_arriving
    {request : Request ε}
    (marked : request.Marked)
    (arriving : request.phase = .arriving)
    (slot : Nat)
    (entry : ε) :
    request.IsServed slot entry := by
  obtain ⟨key, phase, missed⟩ := request
  obtain rfl : phase = .arriving := arriving
  exact ⟨marked, nofun, nofun⟩

namespace Step

variable
  {isFree : Nat → Prop}
  {cache moved : BindingCache ε}
  {earlier later : Request ε}
  {slot : Nat}

/-- A request leaves a slot that it attends filled or dropped. -/
theorem attended?_or_leaves
    (moves : Request.Step isFree cache earlier moved later)
    (inRange : slot < cache.slots.length)
    (attends : earlier.phase.attended? = some slot) :
    later.phase.attended? = some slot ∨ (∃ entry, moved.content? slot = some entry) ∨
      (earlier.key, slot) ∉ moved.mapping := by
  cases moves with
  | fetch key missed => cases attends
  | hit key missed target entry filled =>
      cases attends
      exact .inr (.inl ⟨entry, filled⟩)
  | drop key missed target error =>
      cases attends
      exact .inr (.inr fun member => (mem_mapping_dropSlot.mp member).2 rfl)
  | fill key missed target entry =>
      cases attends
      exact .inr (.inl ⟨entry, content?_fillSlot_self inRange entry⟩)
  | map key missed target entry => cases attends
  | release key missed target result => cases attends
  | _ => exact .inl attends

/-- A request that maps a key anew attends the slot, or has filled it. -/
theorem attended?_of_mapped
    {key : Fingerprint}
    (moves : Request.Step isFree cache earlier moved later)
    (fits : earlier.Fits cache)
    (mapped : (key, slot) ∈ moved.mapping)
    (unmapped : (key, slot) ∉ cache.mapping) :
    later.key = key ∧ later.phase.attended? = some slot ∨
      ∃ entry, moved.content? slot = some entry := by
  cases moves with
  | fetch other missed =>
      cases (mem_mapping_fetchSlot.mp mapped).resolve_right unmapped
      exact .inl ⟨rfl, rfl⟩
  | drop other missed target error =>
      exact absurd (mem_mapping_dropSlot.mp mapped).1 unmapped
  | map other missed target entry =>
      cases (mem_mapping_mapSlot mapped).resolve_right unmapped
      refine .inr ⟨entry, ?_⟩
      rw [content?, slots_mapSlot]
      exact fits.2
  | _ => exact absurd mapped unmapped

/-- A filled slot stays the slot of its key. -/
theorem mem_mapping_of_content?
    {key : Fingerprint}
    {entry : ε}
    (moves : Request.Step isFree cache earlier moved later)
    (fits : earlier.Fits cache)
    (mapped : (key, slot) ∈ cache.mapping)
    (filled : cache.content? slot = some entry) :
    (key, slot) ∈ moved.mapping := by
  rcases moves.mem_mapping_or_drops mapped with kept | ⟨error, drops, _⟩
  · exact kept
  · rw [Request.Fits, drops] at fits
    rw [fits.2] at filled
    cases filled

/-- A request for the key of a filled slot goes on to get its entry. -/
theorem isServed
    {entry : ε}
    (moves : Request.Step isFree cache earlier moved later)
    (marked : earlier.Marked)
    (mapped : cache.slot? earlier.key = some slot)
    (filled : cache.content? slot = some entry)
    (served : earlier.IsServed slot entry) :
    later.IsServed slot entry := by
  obtain ⟨notMissed, slot_eq, result_eq⟩ := served
  cases moves with
  | fetch key missed =>
      rw [fetchSlot_of_mapped mapped]
      exact ⟨notMissed, fun held => (Option.some.inj held).symm, nofun⟩
  | lock key missed target free => exact ⟨notMissed, slot_eq, nofun⟩
  | hit key missed target found isFound =>
      obtain rfl := slot_eq rfl
      rw [filled] at isFound
      cases isFound
      exact ⟨notMissed, slot_eq, fun settled => (Option.some.inj settled).symm⟩
  | miss key missed target empty =>
      obtain rfl := slot_eq rfl
      rw [filled] at empty
      cases empty
  | release key missed target result => exact ⟨notMissed, nofun, result_eq⟩
  -- Every other step belongs to a request that missed.
  | _ =>
      dsimp only at notMissed
      subst notMissed
      cases marked

end Step
end Request

namespace Shared

/-- A key is mapped to a slot, and the slot holds an entry. -/
structure Retains (shared : Shared ε) (key : Fingerprint) (slot : Nat) (entry : ε) : Prop where
  mapped : shared.cache.slot? key = some slot
  filled : shared.cache.content? slot = some entry

theorem Retains.step
    {shared next : Shared ε}
    {key : Fingerprint}
    {slot : Nat}
    {entry : ε}
    (retains : shared.Retains key slot entry)
    (wellFormed : shared.WellFormed)
    (step : Shared.Step shared next) :
    next.Retains key slot entry := by
  cases step with
  | request position earlier later moved found moves =>
      have fits := wellFormed.fits earlier (List.mem_of_getElem? found)
      have mapped := moves.mem_mapping_of_content? fits (mem_of_slot? retains.mapped)
        retains.filled
      exact ⟨(moves.mapsOnce wellFormed.mapsOnce).slot?_eq_some_iff.mpr mapped,
        moves.content?_of_content? fits retains.filled⟩

/-- No request computes for a filled slot, or is about to fill or drop it. -/
theorem Retains.settled
    {shared : Shared ε}
    {key : Fingerprint}
    {slot : Nat}
    {entry : ε}
    {request : Request ε}
    (retains : shared.Retains key slot entry)
    (wellFormed : shared.WellFormed)
    (member : request ∈ shared.requests) :
    request.phase ≠ .computing slot ∧ (∀ other, request.phase ≠ .filling slot other) ∧
      ∀ error, request.phase ≠ .dropping slot error := by
  have fits := wellFormed.fits request member
  have notEmpty : shared.cache.content? slot ≠ none := by
    rw [retains.filled]
    simp
  refine ⟨fun computing => ?_, fun other filling => ?_, fun error dropping => ?_⟩
  · rw [Request.Fits, computing] at fits
    exact notEmpty fits.2
  · rw [Request.Fits, filling] at fits
    exact notEmpty fits.2
  · rw [Request.Fits, dropping] at fits
    exact notEmpty fits.2

theorem Retains.reaches
    {first last : Shared ε}
    {key : Fingerprint}
    {slot : Nat}
    {entry : ε}
    (retains : first.Retains key slot entry)
    (wellFormed : first.WellFormed)
    (run : Shared.Reaches first last) :
    last.Retains key slot entry := by
  induction run with
  | refl => exact retains
  | tail run step inductionHypothesis =>
      exact inductionHypothesis.step (wellFormed.reaches run) step

/-- A request that arrives when its slot is filled gets the entry of the slot. -/
theorem Retains.isServed
    {first last : Shared ε}
    {slot position : Nat}
    {entry : ε}
    {request after : Request ε}
    (retains : first.Retains request.key slot entry)
    (wellFormed : first.WellFormed)
    (counted : first.Counted)
    (run : Shared.Reaches first last)
    (found : first.requests[position]? = some request)
    (arriving : request.phase = .arriving)
    (isAfter : last.requests[position]? = some after) :
    after.key = request.key ∧ after.IsServed slot entry := by
  induction run generalizing after with
  | refl =>
      rw [found] at isAfter
      cases isAfter
      have marked := counted.marked request (List.mem_of_getElem? found)
      exact ⟨rfl, Request.isServed_of_arriving marked arriving slot entry⟩
  | @tail middle last run step inductionHypothesis =>
      have retainsMiddle := retains.reaches wellFormed run
      cases step with
      | request other earlier later moved isEarlier moves =>
          rcases getElem?_set_cases isAfter with ⟨rfl, rfl⟩ | ⟨_, unmoved⟩
          · obtain ⟨sameKey, served⟩ := inductionHypothesis isEarlier
            have marked := (counted.reaches run).marked earlier (List.mem_of_getElem? isEarlier)
            have mapped : middle.cache.slot? earlier.key = some slot := by
              rw [sameKey]
              exact retainsMiddle.mapped
            exact ⟨moves.key_eq.trans sameKey,
              moves.isServed marked mapped retainsMiddle.filled served⟩
          · exact inductionHypothesis unmoved

/-! ## Empty slots -/

/-- Every empty slot that a key is mapped to is attended by a request for the key. -/
def Attended (shared : Shared ε) : Prop :=
  ∀ {key : Fingerprint} {slot : Nat}, (key, slot) ∈ shared.cache.mapping →
    shared.cache.content? slot = none →
      ∃ request ∈ shared.requests, request.key = key ∧ request.phase.attended? = some slot

theorem Attended.step
    {shared next : Shared ε}
    (attended : shared.Attended)
    (wellFormed : shared.WellFormed)
    (step : Shared.Step shared next) :
    next.Attended := by
  cases step with
  | request position earlier later moved found moves =>
      intro key slot mapped empty
      have isEarlier := List.mem_of_getElem? found
      have fits := wellFormed.fits earlier isEarlier
      have inRange := (List.getElem?_eq_some_iff.mp found).1
      have noEntry {entry : ε} : moved.content? slot ≠ some entry := by
        rw [empty]
        simp
      by_cases known : (key, slot) ∈ shared.cache.mapping
      · have wasEmpty : shared.cache.content? slot = none := by
          cases was : shared.cache.content? slot with
          | none => rfl
          | some entry => exact absurd (moves.content?_of_content? fits was) noEntry
        obtain ⟨request, member, ofKey, attends⟩ := attended known wasEmpty
        obtain ⟨other, isOther⟩ := List.mem_iff_getElem?.mp member
        by_cases same : position = other
        · subst same
          rw [found] at isOther
          cases isOther
          rcases moves.attended?_or_leaves (wellFormed.inRange (.inl known)) attends with
            stays | ⟨entry, filled⟩ | dropped
          · exact ⟨later, List.mem_set inRange later, moves.key_eq.trans ofKey, stays⟩
          · exact absurd filled noEntry
          · rw [ofKey] at dropped
            exact absurd mapped dropped
        · have unmoved : (shared.requests.set position later)[other]? = some request :=
            (List.getElem?_set_ne same).trans isOther
          exact ⟨request, List.mem_of_getElem? unmoved, ofKey, attends⟩
      · rcases moves.attended?_of_mapped fits mapped known with ⟨ofKey, attends⟩ | ⟨entry, filled⟩
        · exact ⟨later, List.mem_set inRange later, ofKey, attends⟩
        · exact absurd filled noEntry

theorem attended_of_reaches
    {keys : List Fingerprint}
    {shared : Shared ε}
    (run : Shared.Reaches (start {} keys) shared) :
    shared.Attended := by
  induction run with
  | refl => exact fun mapped _ => by cases mapped
  | tail run step inductionHypothesis =>
      exact inductionHypothesis.step ((wellFormed_start keys).reaches run) step

/-! ## Entries come from compilations -/

/-- The outcomes that the requests that missed have come to so far. -/
def outcomes (shared : Shared ε) (position : Nat) : Except BindError ε :=
  (do
    let request ← shared.requests[position]?
    if request.missed then request.phase.settled? else none).getD (.error (.noColumns ""))

theorem follows_outcomes (shared : Shared ε) : shared.Follows shared.outcomes := by
  intro position request result found missed settled
  simp [outcomes, found, missed, settled]

theorem exists_of_outcomes_eq_ok
    {shared : Shared ε}
    {position : Nat}
    {entry : ε}
    (yields : shared.outcomes position = .ok entry) :
    ∃ request, shared.requests[position]? = some request ∧ request.missed = true ∧
      request.phase.settled? = some (.ok entry) := by
  unfold outcomes at yields
  cases found : shared.requests[position]? with
  | none => simp [found] at yields
  | some request =>
      cases missed : request.missed with
      | false => simp [found, missed] at yields
      | true =>
          cases settled : request.phase.settled? with
          | none => simp [found, missed, settled] at yields
          | some result =>
              obtain rfl : result = .ok entry := by
                simpa [found, missed, settled] using yields
              exact ⟨request, rfl, missed, settled⟩

/-- An entry that is kept or returned for a key was computed by a request for it. -/
theorem exists_missed_of_yields
    {keys : List Fingerprint}
    {shared : Shared ε}
    {key : Fingerprint}
    {entry : ε}
    (run : Shared.Reaches (start {} keys) shared)
    (yields : Yields keys shared.outcomes key entry) :
    ∃ request ∈ shared.requests, request.key = key ∧ request.missed = true ∧
      request.phase.settled? = some (.ok entry) := by
  obtain ⟨position, isKey, isOutcome⟩ := yields
  obtain ⟨request, found, missed, settled⟩ := exists_of_outcomes_eq_ok isOutcome
  rw [← run.map_key, List.getElem?_map, found] at isKey
  exact ⟨request, List.mem_of_getElem? found, Option.some.inj isKey, missed, settled⟩

/-! ## Every state, and the last one -/

/-- What holds of a cache between any two steps of the requests to it. -/
structure Consistent (shared : Shared ε) : Prop where
  /-- While a request computes for a slot, no other request has it locked. -/
  computesAlone : ∀ {first second : Nat} {one other : Request ε} {slot : Nat},
    shared.requests[first]? = some one → shared.requests[second]? = some other →
      one.phase = .computing slot → other.phase.locked? = some slot → first = second
  /-- A filled slot of a key stays that, and no request computes for it or fills it. -/
  retains : ∀ {later : Shared ε} {key : Fingerprint} {slot : Nat} {entry : ε},
    shared.Retains key slot entry → Shared.Reaches shared later →
      later.Retains key slot entry ∧ ∀ request ∈ later.requests,
        request.phase ≠ .computing slot ∧ ∀ other, request.phase ≠ .filling slot other
  /-- A request that arrives at a filled slot gets its entry without computing. -/
  serves : ∀ {later : Shared ε} {position slot : Nat} {entry : ε} {request after : Request ε},
    shared.Retains request.key slot entry → Shared.Reaches shared later →
      shared.requests[position]? = some request → request.phase = .arriving →
        later.requests[position]? = some after → after.IsServed slot entry
  /-- An empty slot of a key is held by a request for the key. -/
  attended : ∀ {key : Fingerprint} {slot : Nat}, (key, slot) ∈ shared.cache.mapping →
    shared.cache.content? slot = none →
      ∃ request ∈ shared.requests, request.key = key ∧ request.phase.slot? = some slot
  /-- The counters of the cache are those of the requests. -/
  counted : shared.Counted

/-- What is left of requests for some keys when all of them have returned. -/
structure Finished (shared : Shared ε) (keys : List Fingerprint) : Prop where
  /-- Every key is mapped to an entry that a request for it has returned. -/
  filled : ∀ {key : Fingerprint} {slot : Nat}, (key, slot) ∈ shared.cache.mapping →
    ∃ entry, shared.cache.content? slot = some entry ∧
      ∃ request ∈ shared.requests, request.key = key ∧
        request.phase.result? = some (.ok entry)
  size_eq : shared.cache.stats.size = shared.cache.mapping.length
  hits_add_misses : shared.cache.stats.hits + shared.cache.stats.misses = keys.length
  misses_eq : shared.cache.stats.misses =
    shared.cache.stats.compilations + shared.requests.countP Request.failed

/-- Every request has its result. -/
def AllReturned (shared : Shared ε) : Prop :=
  ∀ request ∈ shared.requests, request.phase.result?.isSome

theorem AllReturned.result?_eq
    {shared : Shared ε}
    {request : Request ε}
    {result : Except BindError ε}
    (returned : shared.AllReturned)
    (member : request ∈ shared.requests)
    (settled : request.phase.settled? = some result) :
    request.phase.result? = some result := by
  have isReturned := returned request member
  cases phase : request.phase with
  | returned outcome =>
      rw [phase] at settled
      exact settled
  | _ => simp [phase, RequestPhase.result?] at isReturned

theorem AllReturned.finished
    {keys : List Fingerprint}
    {shared : Shared ε}
    (returned : shared.AllReturned)
    (run : Shared.Reaches (start {} keys) shared) :
    shared.Finished keys := by
  have counted := (counted_start keys).reaches run
  have isFilled {key : Fingerprint} {slot : Nat}
      (mapped : (key, slot) ∈ shared.cache.mapping) :
      ∃ entry, shared.cache.content? slot = some entry := by
    cases content : shared.cache.content? slot with
    | some entry => exact ⟨entry, rfl⟩
    | none =>
        obtain ⟨request, member, _, attends⟩ := attended_of_reaches run mapped content
        have isReturned := returned request member
        cases phase : request.phase <;>
          simp [phase, RequestPhase.attended?, RequestPhase.result?] at attends isReturned
  have length_eq : shared.requests.length = keys.length := by
    rw [← run.map_key, List.length_map]
  refine ⟨fun {key slot} mapped => ?_, ?_, ?_, ?_⟩
  · obtain ⟨entry, filled⟩ := isFilled mapped
    have yields := (sourced_of_reaches run shared.follows_outcomes).kept (.inl mapped) filled
    obtain ⟨request, member, ofKey, _, settled⟩ := exists_missed_of_yields run yields
    exact ⟨entry, filled, request, member, ofKey, returned.result?_eq member settled⟩
  · refine List.countP_eq_length.mpr fun pair mapped => ?_
    obtain ⟨entry, filled⟩ := isFilled mapped
    rw [filled]
    rfl
  · change shared.cache.hits + shared.cache.misses = keys.length
    rw [counted.hits, counted.misses, ← length_eq, ← List.countP_true, eq_comm]
    refine countP_eq_add fun request member => ?_
    exact (Request.isHit_add_missed (returned request member)).symm
  · change shared.cache.misses = shared.cache.compilations + _
    rw [counted.misses, counted.compilations]
    exact countP_eq_add fun request member =>
      Request.missed_eq_compiled_add_failed (counted.marked request member)
        (returned request member)

/-- Every interleaving of requests to an empty cache keeps it consistent, and leaves
nothing but entries in it once all requests have returned. -/
theorem consistent_of_reaches
    {keys : List Fingerprint}
    {shared : Shared ε}
    (run : Shared.Reaches (start {} keys) shared) :
    shared.Consistent ∧ (shared.AllReturned → shared.Finished keys) := by
  have wellFormed := (wellFormed_start keys).reaches run
  have counted := (counted_start keys).reaches run
  refine ⟨⟨fun isFirst isSecond computing locked => ?_, fun retains on => ?_,
    fun retains on found arriving isAfter => ?_, fun mapped empty => ?_, counted⟩,
    fun returned => returned.finished run⟩
  · exact wellFormed.exclusive isFirst isSecond (by rw [computing]; rfl) locked
  · have retainsLater := retains.reaches wellFormed on
    refine ⟨retainsLater, fun request member => ?_⟩
    obtain ⟨noComputing, noFilling, _⟩ :=
      retainsLater.settled (wellFormed.reaches on) member
    exact ⟨noComputing, noFilling⟩
  · exact (retains.isServed wellFormed counted on found arriving isAfter).2
  · obtain ⟨request, member, ofKey, attends⟩ := attended_of_reaches run mapped empty
    exact ⟨request, member, ofKey, RequestPhase.slot?_of_attended? attends⟩

/-- The counters of three requests of which one failed and two filled a slot. -/
theorem finished_after_failure :
    ∃ shared : Shared Nat,
      Shared.Reaches (start {} [⟨"row"⟩, ⟨"row"⟩, ⟨"row"⟩]) shared ∧ shared.AllReturned ∧
        shared.cache.stats.hits + shared.cache.stats.misses = 3 ∧
        shared.cache.stats.misses = shared.cache.stats.compilations + 1 := by
  let keys : List Fingerprint := [⟨"row"⟩, ⟨"row"⟩, ⟨"row"⟩]
  obtain ⟨cache, run⟩ := exists_reaches_splitProgress (show keys[0]? = some ⟨"row"⟩ from rfl)
    (show keys[1]? = some ⟨"row"⟩ from rfl) (show keys[2]? = some ⟨"row"⟩ from rfl)
    (by decide) (by decide) (by decide) (.noColumns "row") 1 2
  have returned : (arranged cache keys
      (splitProgress 0 1 2 (.noColumns "row") 1 2)).AllReturned := by
    intro request member
    obtain ⟨position, inRange, rfl⟩ := List.mem_mapIdx.mp member
    match position, inRange with
    | 0, _ | 1, _ | 2, _ => rfl
  have finished := (consistent_of_reaches run).2 returned
  exact ⟨_, run, returned, finished.hits_add_misses, finished.misses_eq⟩

end Shared
end BindingCache
end RowBinding
