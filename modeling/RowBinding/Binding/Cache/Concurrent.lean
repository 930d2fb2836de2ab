import RowBinding.Binding.Cache

/-!
# Requests beside each other

Several requests to one cache at once. A request fetches the slot of its key,
waits for the lock of the slot, looks at the content, and either returns it or
computes an entry while it keeps the lock. Between any two steps of a request,
other requests may take steps of theirs.

What a computation yields is left open, so a step may let it succeed with any
entry or fail with any error. One request that runs alone does what
`getOrCompute` does.
-/

namespace RowBinding
namespace BindingCache

variable {ε : Type}

/-- How far a request has come. -/
inductive RequestPhase (ε : Type)
  /-- The slot of the key is still to be fetched. -/
  | arriving
  /-- The lock of the slot is awaited. -/
  | waiting (slot : Nat)
  /-- The slot is locked, and its content is still to be looked at. -/
  | checking (slot : Nat)
  /-- The slot was found empty, and the entry is being computed. -/
  | computing (slot : Nat)
  /-- The computation failed, and the slot is still to be dropped. -/
  | dropping (slot : Nat) (error : BindError)
  /-- The computation succeeded, and the slot is still to be filled. -/
  | filling (slot : Nat) (entry : ε)
  /-- The slot is filled, and the key is still to be mapped to it. -/
  | mapping (slot : Nat) (entry : ε)
  /-- The result is there, and the lock is still to be released. -/
  | releasing (slot : Nat) (result : Except BindError ε)
  /-- The request has its result. -/
  | returned (result : Except BindError ε)

namespace RequestPhase

/-- The slot that a request has locked. -/
def locked? : RequestPhase ε → Option Nat
  | .arriving | .waiting _ | .returned _ => none
  | .checking slot | .computing slot | .dropping slot _ | .filling slot _
  | .mapping slot _ | .releasing slot _ => some slot

/-- The result of a request that has returned. -/
def result? : RequestPhase ε → Option (Except BindError ε)
  | .returned result => some result
  | _ => none

end RequestPhase

/-- A request for a key, how far it has come, and whether it found no entry. -/
structure Request (ε : Type) where
  key : Fingerprint
  phase : RequestPhase ε := .arriving
  missed : Bool := false

/-- A cache with the requests to it. -/
structure Shared (ε : Type) where
  cache : BindingCache ε := {}
  requests : List (Request ε)

/-- Requests for some keys to a cache, before the first step. -/
def Shared.start (cache : BindingCache ε) (keys : List Fingerprint) : Shared ε :=
  ⟨cache, keys.map fun key => { key := key }⟩

/-- Whether no request has locked a slot. -/
def Shared.IsFree (shared : Shared ε) (slot : Nat) : Prop :=
  ∀ request ∈ shared.requests, request.phase.locked? ≠ some slot

/-- One step of a request, for the slots that it may lock. -/
inductive Request.Step (isFree : Nat → Prop) :
    BindingCache ε → Request ε → BindingCache ε → Request ε → Prop
  | fetch (cache : BindingCache ε) (key : Fingerprint) (missed : Bool) :
      Step isFree cache ⟨key, .arriving, missed⟩
        (cache.fetchSlot key).2 ⟨key, .waiting (cache.fetchSlot key).1, missed⟩
  | lock
      (cache : BindingCache ε)
      (key : Fingerprint)
      (missed : Bool)
      (slot : Nat)
      (free : isFree slot) :
      Step isFree cache ⟨key, .waiting slot, missed⟩ cache ⟨key, .checking slot, missed⟩
  | hit
      (cache : BindingCache ε)
      (key : Fingerprint)
      (missed : Bool)
      (slot : Nat)
      (entry : ε)
      (filled : cache.content? slot = some entry) :
      Step isFree cache ⟨key, .checking slot, missed⟩
        cache.countHit ⟨key, .releasing slot (.ok entry), missed⟩
  | miss
      (cache : BindingCache ε)
      (key : Fingerprint)
      (missed : Bool)
      (slot : Nat)
      (empty : cache.content? slot = none) :
      Step isFree cache ⟨key, .checking slot, missed⟩
        cache.countMiss ⟨key, .computing slot, true⟩
  | succeed
      (cache : BindingCache ε)
      (key : Fingerprint)
      (missed : Bool)
      (slot : Nat)
      (entry : ε) :
      Step isFree cache ⟨key, .computing slot, missed⟩
        cache ⟨key, .filling slot entry, missed⟩
  | fail
      (cache : BindingCache ε)
      (key : Fingerprint)
      (missed : Bool)
      (slot : Nat)
      (error : BindError) :
      Step isFree cache ⟨key, .computing slot, missed⟩
        cache ⟨key, .dropping slot error, missed⟩
  | drop
      (cache : BindingCache ε)
      (key : Fingerprint)
      (missed : Bool)
      (slot : Nat)
      (error : BindError) :
      Step isFree cache ⟨key, .dropping slot error, missed⟩
        (cache.dropSlot key slot) ⟨key, .releasing slot (.error error), missed⟩
  | fill
      (cache : BindingCache ε)
      (key : Fingerprint)
      (missed : Bool)
      (slot : Nat)
      (entry : ε) :
      Step isFree cache ⟨key, .filling slot entry, missed⟩
        (cache.fillSlot slot entry) ⟨key, .mapping slot entry, missed⟩
  | map
      (cache : BindingCache ε)
      (key : Fingerprint)
      (missed : Bool)
      (slot : Nat)
      (entry : ε) :
      Step isFree cache ⟨key, .mapping slot entry, missed⟩
        (cache.mapSlot key slot) ⟨key, .releasing slot (.ok entry), missed⟩
  | release
      (cache : BindingCache ε)
      (key : Fingerprint)
      (missed : Bool)
      (slot : Nat)
      (result : Except BindError ε) :
      Step isFree cache ⟨key, .releasing slot result, missed⟩
        cache ⟨key, .returned result, missed⟩

/-- One step of any of the requests. -/
inductive Shared.Step : Shared ε → Shared ε → Prop
  | request
      (shared : Shared ε)
      (position : Nat)
      (earlier later : Request ε)
      (cache : BindingCache ε)
      (found : shared.requests[position]? = some earlier)
      (moves : Request.Step shared.IsFree shared.cache earlier cache later) :
      Step shared ⟨cache, shared.requests.set position later⟩

/-- What can become of a cache with requests, in any order of their steps. -/
inductive Shared.Reaches : Shared ε → Shared ε → Prop
  | refl (shared : Shared ε) : Reaches shared shared
  | tail
      {first middle last : Shared ε}
      (run : Reaches first middle)
      (step : Shared.Step middle last) : Reaches first last

/-- A step of the only request is a step of the whole. -/
theorem Shared.Reaches.only
    {first : Shared ε}
    {cache moved : BindingCache ε}
    {earlier later : Request ε}
    (run : Shared.Reaches first ⟨cache, [earlier]⟩)
    (moves : Request.Step (Shared.IsFree ⟨cache, [earlier]⟩) cache earlier moved later) :
    Shared.Reaches first ⟨moved, [later]⟩ :=
  .tail run (.request ⟨cache, [earlier]⟩ 0 earlier later moved rfl moves)

/-- The slot that a waiting request awaits is free if no other request is there. -/
theorem isFree_of_waiting
    (cache : BindingCache ε)
    (key : Fingerprint)
    (missed : Bool)
    (slot : Nat) :
    Shared.IsFree ⟨cache, [⟨key, .waiting slot, missed⟩]⟩ slot := by
  intro request member
  simp only [List.mem_singleton] at member
  subst member
  simp [RequestPhase.locked?]

/-- A single request runs to the result and the cache of `getOrCompute`. -/
theorem reaches_getOrCompute
    (cache : BindingCache ε)
    (key : Fingerprint)
    (compute : Unit → Except BindError ε) :
    ∃ missed,
      Shared.Reaches (Shared.start cache [key])
        ⟨(cache.getOrCompute key compute).2,
          [⟨key, .returned (cache.getOrCompute key compute).1, missed⟩]⟩ := by
  have checked :
      Shared.Reaches (Shared.start cache [key])
        ⟨(cache.fetchSlot key).2,
          [⟨key, .checking (cache.fetchSlot key).1, false⟩]⟩ :=
    ((Shared.Reaches.refl (Shared.start cache [key])).only (.fetch cache key false)).only
      (.lock _ key false _ (isFree_of_waiting _ key false _))
  unfold getOrCompute
  simp only
  split
  · next entry filled =>
      exact ⟨false, (checked.only (.hit _ key false _ entry filled)).only
        (.release _ key false _ _)⟩
  · next empty =>
      have missed := checked.only (.miss _ key false _ empty)
      split
      · next entry _ =>
          exact ⟨true, (((missed.only (.succeed _ key true _ entry)).only
            (.fill _ key true _ entry)).only (.map _ key true _ entry)).only
              (.release _ key true _ _)⟩
      · next error _ =>
          exact ⟨true, ((missed.only (.fail _ key true _ error)).only
            (.drop _ key true _ error)).only (.release _ key true _ _)⟩

end BindingCache
end RowBinding
