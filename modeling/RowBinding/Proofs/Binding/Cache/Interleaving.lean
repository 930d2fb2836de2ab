import RowBinding.Binding.Cache.Concurrent
import RowBinding.Proofs.Binding.Cache.Slots

/-!
# Interleaved requests

What every interleaving of requests to a cache preserves. A slot belongs to one
key, one request at a time has it locked, and it stays empty while an entry for
it is computed. What one step does to the cache is said once, for all phases of
a request.
-/

namespace RowBinding
namespace BindingCache

variable {ε : Type}

/-- The slot that a request has fetched and not released yet. -/
def RequestPhase.slot? : RequestPhase ε → Option Nat
  | .arriving | .returned _ => none
  | .waiting slot | .checking slot | .computing slot | .dropping slot _
  | .filling slot _ | .mapping slot _ | .releasing slot _ => some slot

/-- The result that a request has come to, whether or not it has returned. -/
def RequestPhase.settled? : RequestPhase ε → Option (Except BindError ε)
  | .arriving | .waiting _ | .checking _ | .computing _ => none
  | .dropping _ error => some (.error error)
  | .filling _ entry | .mapping _ entry => some (.ok entry)
  | .releasing _ result | .returned result => some result

/-! ## One step -/

namespace Request.Step

variable
  {isFree : Nat → Prop}
  {cache moved : BindingCache ε}
  {earlier later : Request ε}

theorem key_eq (moves : Request.Step isFree cache earlier moved later) :
    later.key = earlier.key := by
  cases moves <;> rfl

theorem missed_of_missed
    (moves : Request.Step isFree cache earlier moved later)
    (missed : earlier.missed = true) :
    later.missed = true := by
  cases moves <;> first | exact missed | rfl

theorem settled?_of_settled?
    {result : Except BindError ε}
    (moves : Request.Step isFree cache earlier moved later)
    (settled : earlier.phase.settled? = some result) :
    later.phase.settled? = some result := by
  cases moves <;> simp_all [RequestPhase.settled?]

/-- No step takes a slot away. -/
theorem length_le (moves : Request.Step isFree cache earlier moved later) :
    cache.slots.length ≤ moved.slots.length := by
  cases moves with
  | fetch key missed => exact length_le_fetchSlot cache _
  | fill key missed slot entry => exact Nat.le_of_eq (length_fillSlot cache _ _).symm
  | map key missed slot entry => exact Nat.le_of_eq (by rw [slots_mapSlot])
  | _ => exact Nat.le_refl _

/-- A step that changes the content of a slot fills the slot. -/
theorem content?_eq_or_fills
    (moves : Request.Step isFree cache earlier moved later) :
    (∀ slot, moved.content? slot = cache.content? slot) ∨
      ∃ slot entry, earlier.phase = .filling slot entry ∧
        moved = cache.fillSlot slot entry := by
  cases moves with
  | fetch key missed => exact .inl (content?_fetchSlot cache _)
  | fill key missed slot entry => exact .inr ⟨_, _, rfl, rfl⟩
  | map key missed slot entry =>
      exact .inl fun slot => by rw [content?, content?, slots_mapSlot]
  | _ => exact .inl fun _ => rfl

/-- A step maps at most the key of its request, to the slot that it holds. -/
theorem mem_mapping_of_mem
    {pair : Fingerprint × Nat}
    (moves : Request.Step isFree cache earlier moved later)
    (member : pair ∈ moved.mapping) :
    pair ∈ cache.mapping ∨
      pair.1 = later.key ∧ later.phase.slot? = some pair.2 := by
  cases moves with
  | fetch key missed =>
      rcases mem_mapping_fetchSlot.mp member with rfl | known
      · exact .inr ⟨rfl, rfl⟩
      · exact .inl known
  | drop key missed slot error => exact .inl (mem_mapping_dropSlot.mp member).1
  | map key missed slot entry =>
      rcases mem_mapping_mapSlot member with rfl | known
      · exact .inr ⟨rfl, rfl⟩
      · exact .inl known
  | _ => exact .inl member

/-- A step takes a key out of the mapping only after its computation failed. -/
theorem mem_mapping_or_drops
    {pair : Fingerprint × Nat}
    (moves : Request.Step isFree cache earlier moved later)
    (member : pair ∈ cache.mapping) :
    pair ∈ moved.mapping ∨
      ∃ error, earlier.phase = .dropping pair.2 error ∧ pair.1 = earlier.key := by
  cases moves with
  | fetch key missed => exact .inl (mem_mapping_fetchSlot.mpr (.inr member))
  | drop key missed slot error =>
      by_cases same : pair = (key, slot)
      · subst same
        exact .inr ⟨error, rfl, rfl⟩
      · exact .inl (mem_mapping_dropSlot.mpr ⟨member, same⟩)
  | map key missed slot entry => exact .inl (mem_mapping_mapSlot_of_mem member _ slot)
  | _ => exact .inl member

theorem mapsOnce
    (moves : Request.Step isFree cache earlier moved later)
    (once : cache.MapsOnce) :
    moved.MapsOnce := by
  cases moves with
  | fetch key missed => exact once.fetchSlot _
  | drop key missed slot error => exact once.dropSlot _ slot
  | map key missed slot entry => exact once.mapSlot _ slot
  | _ => exact once

/-- A request comes by a slot only through its key, or makes it. -/
theorem slot?_known_or_fresh
    {slot : Nat}
    (moves : Request.Step isFree cache earlier moved later)
    (holds : later.phase.slot? = some slot) :
    earlier.phase.slot? = some slot ∨ (earlier.key, slot) ∈ cache.mapping ∨
      slot = cache.slots.length ∧ slot < moved.slots.length := by
  cases moves with
  | fetch key missed =>
      cases holds
      rcases fetchSlot_known_or_fresh cache key with known | ⟨fresh, added⟩
      · exact .inr (.inl known)
      · exact .inr (.inr ⟨fresh, fresh ▸ added⟩)
  | release key missed slot result => cases holds
  | _ => exact .inl holds

/-- A slot that a request comes by is the one that its key is mapped to then. -/
theorem slot?_held_or_mapped
    {slot : Nat}
    (moves : Request.Step isFree cache earlier moved later)
    (holds : later.phase.slot? = some slot) :
    earlier.phase.slot? = some slot ∨ (later.key, slot) ∈ moved.mapping := by
  cases moves with
  | fetch key missed =>
      cases holds
      exact .inr (mem_mapping_fetchSlot.mpr (.inl rfl))
  | release key missed slot result => cases holds
  | _ => exact .inl holds

/-- A result is found in the slot, or it comes from a computation. -/
theorem settled?_or_comes
    {result : Except BindError ε}
    (moves : Request.Step isFree cache earlier moved later)
    (settled : later.phase.settled? = some result) :
    earlier.phase.settled? = some result ∨
      (∃ slot entry, earlier.phase.slot? = some slot ∧
        cache.content? slot = some entry ∧ result = .ok entry) ∨
      ∃ slot, earlier.phase = .computing slot := by
  cases moves with
  | fetch key missed => cases settled
  | lock key missed slot free => cases settled
  | hit key missed slot entry filled =>
      cases settled
      exact .inr (.inl ⟨slot, entry, rfl, filled, rfl⟩)
  | miss key missed slot empty => cases settled
  | succeed key missed slot entry => exact .inr (.inr ⟨slot, rfl⟩)
  | fail key missed slot error => exact .inr (.inr ⟨slot, rfl⟩)
  | _ => exact .inl settled

theorem filling_of_computing
    {slot : Nat}
    {entry : ε}
    (moves : Request.Step isFree cache earlier moved later)
    (computing : earlier.phase = .computing slot)
    (settled : later.phase.settled? = some (.ok entry)) :
    later.phase = .filling slot entry := by
  cases moves with
  | succeed key missed target computed =>
      cases computing
      cases settled
      rfl
  | fail key missed target error => cases settled
  | _ => cases computing

theorem moved_of_filling
    {slot : Nat}
    {entry : ε}
    (moves : Request.Step isFree cache earlier moved later)
    (filling : earlier.phase = .filling slot entry) :
    moved = cache.fillSlot slot entry := by
  cases moves with
  | fill key missed target computed =>
      cases filling
      rfl
  | _ => cases filling

/-- An entry in a slot was there before, or the request had computed it. -/
theorem content?_or_filling
    {slot : Nat}
    {entry : ε}
    (moves : Request.Step isFree cache earlier moved later)
    (filled : moved.content? slot = some entry) :
    cache.content? slot = some entry ∨ earlier.phase = .filling slot entry := by
  rcases moves.content?_eq_or_fills with same | ⟨target, computed, fills, rfl⟩
  · exact .inl (same slot ▸ filled)
  · rcases content?_fillSlot_eq_some filled with known | ⟨rfl, rfl⟩
    · exact .inl known
    · exact .inr fills

/-- A request locks a slot only while it is free. -/
theorem locked?_or_free
    {slot : Nat}
    (moves : Request.Step isFree cache earlier moved later)
    (locked : later.phase.locked? = some slot) :
    earlier.phase.locked? = some slot ∨ isFree slot := by
  cases moves with
  | lock key missed awaited free =>
      cases locked
      exact .inr free
  | fetch key missed => cases locked
  | release key missed slot result => cases locked
  | _ => exact .inl locked

end Request.Step

/-! ## What a request relies on -/

/-- The cache is as the phase of a request takes it to be. -/
def Request.Fits (cache : BindingCache ε) (request : Request ε) : Prop :=
  match request.phase with
  | .arriving | .waiting _ | .checking _ | .returned (.ok _) => True
  | .computing slot | .dropping slot _ | .filling slot _ =>
      request.missed = true ∧ cache.content? slot = none
  | .mapping slot entry => request.missed = true ∧ cache.content? slot = some entry
  | .releasing slot (.ok entry) => cache.content? slot = some entry
  | .releasing _ (.error _) | .returned (.error _) => request.missed = true

/-- A request is not concerned by slots that it has not locked. -/
theorem Request.Fits.of_content?_eq
    {cache moved : BindingCache ε}
    {request : Request ε}
    (fits : request.Fits cache)
    (same : ∀ slot, request.phase.locked? = some slot →
      moved.content? slot = cache.content? slot) :
    request.Fits moved := by
  obtain ⟨key, phase, missed⟩ := request
  cases phase with
  | computing slot | dropping slot error | filling slot entry | mapping slot entry =>
      exact ⟨fits.1, (same slot rfl).trans fits.2⟩
  | releasing slot result =>
      cases result with
      | ok entry => exact (same slot rfl).trans fits
      | error error => exact fits
  | returned result => cases result <;> exact fits
  | _ => exact fits

theorem Request.Step.fits
    {isFree : Nat → Prop}
    {cache moved : BindingCache ε}
    {earlier later : Request ε}
    (moves : Request.Step isFree cache earlier moved later)
    (inRange : ∀ slot, earlier.phase.slot? = some slot → slot < cache.slots.length)
    (fits : earlier.Fits cache) :
    later.Fits moved := by
  cases moves with
  | fetch key missed => trivial
  | lock key missed slot free => trivial
  | hit key missed slot entry filled => exact filled
  | miss key missed slot empty => exact ⟨rfl, empty⟩
  | succeed key missed slot entry => exact fits
  | fail key missed slot error => exact fits
  | drop key missed slot error => exact fits.1
  | fill key missed slot entry =>
      exact ⟨fits.1, content?_fillSlot_self (inRange slot rfl) entry⟩
  | map key missed slot entry =>
      change (cache.mapSlot key slot).content? slot = some entry
      rw [content?, slots_mapSlot]
      exact fits.2
  | release key missed slot result =>
      cases result with
      | ok entry => trivial
      | error error => exact fits

/-- A step leaves every entry where it is. -/
theorem Request.Step.content?_of_content?
    {isFree : Nat → Prop}
    {cache moved : BindingCache ε}
    {earlier later : Request ε}
    {slot : Nat}
    {entry : ε}
    (moves : Request.Step isFree cache earlier moved later)
    (fits : earlier.Fits cache)
    (filled : cache.content? slot = some entry) :
    moved.content? slot = some entry := by
  rcases moves.content?_eq_or_fills with same | ⟨target, computed, fills, rfl⟩
  · exact (same slot).trans filled
  · rw [Fits, fills] at fits
    have different : target ≠ slot := by
      rintro rfl
      rw [fits.2] at filled
      cases filled
    rw [content?_fillSlot_of_ne different, filled]

/-! ## Well-formed states -/

namespace Shared

/-- The key is mapped to the slot, or a request for the key has fetched it. -/
def Holds (shared : Shared ε) (key : Fingerprint) (slot : Nat) : Prop :=
  (key, slot) ∈ shared.cache.mapping ∨
    ∃ request ∈ shared.requests, request.key = key ∧ request.phase.slot? = some slot

/-- What holds of a cache with requests between any two of their steps. -/
structure WellFormed (shared : Shared ε) : Prop where
  mapsOnce : shared.cache.MapsOnce
  inRange : ∀ {key slot}, shared.Holds key slot → slot < shared.cache.slots.length
  owned : ∀ {first second slot},
    shared.Holds first slot → shared.Holds second slot → first = second
  exclusive : ∀ {first second : Nat} {one other : Request ε} {slot : Nat},
    shared.requests[first]? = some one → shared.requests[second]? = some other →
      one.phase.locked? = some slot → other.phase.locked? = some slot → first = second
  fits : ∀ request ∈ shared.requests, request.Fits shared.cache

/-- A request fails only after it has computed. -/
theorem WellFormed.missed_of_error
    {shared : Shared ε}
    {position : Nat}
    {request : Request ε}
    {error : BindError}
    (wellFormed : shared.WellFormed)
    (found : shared.requests[position]? = some request)
    (settled : request.phase.settled? = some (.error error)) :
    request.missed = true := by
  have fits := wellFormed.fits request (List.mem_of_getElem? found)
  obtain ⟨key, phase, missed⟩ := request
  cases phase with
  | dropping slot error => exact fits.1
  | releasing slot result | returned result =>
      cases settled
      exact fits
  | _ => cases settled

theorem Holds.of_request
    {shared : Shared ε}
    {position slot : Nat}
    {request : Request ε}
    (found : shared.requests[position]? = some request)
    (holds : request.phase.slot? = some slot) :
    shared.Holds request.key slot :=
  .inr ⟨request, List.mem_of_getElem? found, rfl, holds⟩

/-- A request after a step is the one that moved, or one that did not. -/
theorem getElem?_set_cases
    {requests : List (Request ε)}
    {position other : Nat}
    {later request : Request ε}
    (found : (requests.set position later)[other]? = some request) :
    other = position ∧ request = later ∨
      other ≠ position ∧ requests[other]? = some request := by
  by_cases same : other = position
  · subst same
    rw [List.getElem?_set_self'] at found
    cases known : requests[other]? with
    | none => simp [known] at found
    | some earlier =>
        simp only [known, Option.map_eq_map, Option.map_some, Option.some.injEq] at found
        exact .inl ⟨rfl, found.symm⟩
  · rw [List.getElem?_set_ne (Ne.symm same)] at found
    exact .inr ⟨same, found⟩

section Step

variable
  {shared : Shared ε}
  {position : Nat}
  {earlier later : Request ε}
  {moved : BindingCache ε}

/-- Every request goes on with its key and with the result that it has come to. -/
theorem exists_after_step
    {other : Nat}
    {request : Request ε}
    (found : shared.requests[position]? = some earlier)
    (moves : Request.Step shared.IsFree shared.cache earlier moved later)
    (isOther : shared.requests[other]? = some request) :
    ∃ after, (shared.requests.set position later)[other]? = some after ∧
      after.key = request.key ∧
      (request.missed = true → after.missed = true) ∧
      ∀ {result}, request.phase.settled? = some result →
        after.phase.settled? = some result := by
  by_cases same : position = other
  · subst same
    rw [found] at isOther
    cases isOther
    exact ⟨later, List.getElem?_set_self (List.getElem?_eq_some_iff.mp found).1,
      moves.key_eq, moves.missed_of_missed, moves.settled?_of_settled?⟩
  · exact ⟨request, (List.getElem?_set_ne same).trans isOther, rfl, id, id⟩

/-- A slot that is held after a step was held before by the same key, or is new. -/
theorem Holds.before_step
    {key : Fingerprint}
    {slot : Nat}
    (found : shared.requests[position]? = some earlier)
    (moves : Request.Step shared.IsFree shared.cache earlier moved later)
    (holds : Holds ⟨moved, shared.requests.set position later⟩ key slot) :
    shared.Holds key slot ∨
      key = earlier.key ∧ slot = shared.cache.slots.length ∧
        slot < moved.slots.length := by
  have throughLater (holdsLater : later.phase.slot? = some slot) :
      shared.Holds later.key slot ∨
        later.key = earlier.key ∧ slot = shared.cache.slots.length ∧
          slot < moved.slots.length := by
    rw [moves.key_eq]
    rcases moves.slot?_known_or_fresh holdsLater with held | mapped | fresh
    · exact .inl (.of_request found held)
    · exact .inl (.inl mapped)
    · exact .inr ⟨rfl, fresh⟩
  rcases holds with mapped | ⟨request, member, rfl, holds⟩
  · rcases moves.mem_mapping_of_mem mapped with known | ⟨rfl, holdsLater⟩
    · exact .inl (.inl known)
    · exact throughLater holdsLater
  · rcases List.mem_or_eq_of_mem_set member with unmoved | rfl
    · exact .inl (.inr ⟨request, unmoved, rfl, holds⟩)
    · exact throughLater holds

theorem WellFormed.owned_of_step
    {first second : Fingerprint}
    {slot : Nat}
    (wellFormed : shared.WellFormed)
    (found : shared.requests[position]? = some earlier)
    (moves : Request.Step shared.IsFree shared.cache earlier moved later)
    (holdsFirst : Holds ⟨moved, shared.requests.set position later⟩ first slot)
    (holdsSecond : Holds ⟨moved, shared.requests.set position later⟩ second slot) :
    first = second := by
  rcases holdsFirst.before_step found moves with knownFirst | ⟨rfl, fresh, _⟩
  · rcases holdsSecond.before_step found moves with knownSecond | ⟨rfl, fresh, _⟩
    · exact wellFormed.owned knownFirst knownSecond
    · have old := wellFormed.inRange knownFirst
      omega
  · rcases holdsSecond.before_step found moves with knownSecond | ⟨rfl, _, _⟩
    · have old := wellFormed.inRange knownSecond
      omega
    · rfl

theorem WellFormed.exclusive_of_step
    {first second : Nat}
    {one other : Request ε}
    {slot : Nat}
    (wellFormed : shared.WellFormed)
    (found : shared.requests[position]? = some earlier)
    (moves : Request.Step shared.IsFree shared.cache earlier moved later)
    (isFirst : (shared.requests.set position later)[first]? = some one)
    (isSecond : (shared.requests.set position later)[second]? = some other)
    (locksFirst : one.phase.locked? = some slot)
    (locksSecond : other.phase.locked? = some slot) :
    first = second := by
  -- A slot that the moved request has locked is locked by no other request.
  have alone {index : Nat} {request : Request ε}
      (different : index ≠ position)
      (unmoved : shared.requests[index]? = some request)
      (locksLater : later.phase.locked? = some slot)
      (locks : request.phase.locked? = some slot) : False := by
    rcases moves.locked?_or_free locksLater with locked | free
    · exact different (wellFormed.exclusive unmoved found locks locked)
    · exact free request (List.mem_of_getElem? unmoved) locks
  rcases getElem?_set_cases isFirst with ⟨rfl, rfl⟩ | ⟨moreFirst, unmovedFirst⟩
  · rcases getElem?_set_cases isSecond with ⟨rfl, _⟩ | ⟨different, unmoved⟩
    · rfl
    · exact (alone different unmoved locksFirst locksSecond).elim
  · rcases getElem?_set_cases isSecond with ⟨rfl, rfl⟩ | ⟨_, unmovedSecond⟩
    · exact (alone moreFirst unmovedFirst locksSecond locksFirst).elim
    · exact wellFormed.exclusive unmovedFirst unmovedSecond locksFirst locksSecond

theorem WellFormed.fits_of_step
    (wellFormed : shared.WellFormed)
    (found : shared.requests[position]? = some earlier)
    (moves : Request.Step shared.IsFree shared.cache earlier moved later) :
    ∀ request ∈ shared.requests.set position later, request.Fits moved := by
  intro request member
  obtain ⟨other, isOther⟩ := List.mem_iff_getElem?.mp member
  rcases getElem?_set_cases isOther with ⟨_, rfl⟩ | ⟨different, unmoved⟩
  · exact moves.fits (fun slot holds => wellFormed.inRange (.of_request found holds))
      (wellFormed.fits earlier (List.mem_of_getElem? found))
  · refine (wellFormed.fits request (List.mem_of_getElem? unmoved)).of_content?_eq
      fun slot locked => ?_
    rcases moves.content?_eq_or_fills with same | ⟨filled, entry, fills, rfl⟩
    · exact same slot
    · refine content?_fillSlot_of_ne (fun isFilled => ?_) entry
      have locksFilled : earlier.phase.locked? = some slot := by
        rw [fills, isFilled]
        rfl
      exact different (wellFormed.exclusive unmoved found locked locksFilled)

end Step

theorem WellFormed.step
    {shared next : Shared ε}
    (wellFormed : shared.WellFormed)
    (step : Shared.Step shared next) :
    next.WellFormed := by
  cases step with
  | request position earlier later moved found moves =>
      refine ⟨moves.mapsOnce wellFormed.mapsOnce, fun holds => ?_,
        wellFormed.owned_of_step found moves, wellFormed.exclusive_of_step found moves,
        wellFormed.fits_of_step found moves⟩
      rcases holds.before_step found moves with known | ⟨_, _, inRange⟩
      · exact Nat.lt_of_lt_of_le (wellFormed.inRange known) moves.length_le
      · exact inRange

theorem WellFormed.reaches
    {first last : Shared ε}
    (wellFormed : first.WellFormed)
    (run : Shared.Reaches first last) :
    last.WellFormed := by
  induction run with
  | refl => exact wellFormed
  | tail run step inductionHypothesis => exact inductionHypothesis.step step

/-- Requests to an empty cache start in a well-formed state. -/
theorem wellFormed_start (keys : List Fingerprint) :
    (start ({} : BindingCache ε) keys).WellFormed := by
  have arriving : ∀ request ∈ (start ({} : BindingCache ε) keys).requests,
      request.phase = .arriving := by
    intro request member
    obtain ⟨key, _, rfl⟩ := List.mem_map.mp member
    rfl
  have holdsNothing {key : Fingerprint} {slot : Nat}
      (holds : (start ({} : BindingCache ε) keys).Holds key slot) : False := by
    rcases holds with mapped | ⟨request, member, _, holds⟩
    · cases mapped
    · rw [arriving request member] at holds
      cases holds
  refine ⟨List.nodup_nil, fun holds => (holdsNothing holds).elim,
    fun holds => (holdsNothing holds).elim, fun isFirst _ locks => ?_,
    fun request member => ?_⟩
  · rw [arriving _ (List.mem_of_getElem? isFirst)] at locks
    cases locks
  · rw [Request.Fits, arriving request member]
    trivial

end Shared

end BindingCache
end RowBinding
