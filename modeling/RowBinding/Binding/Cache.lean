import RowBinding.Binding.Error
import RowBinding.Binding.Fingerprint

/-!
# The binding cache

A store of entries by fingerprint. Each fingerprint owns a slot, which the
first request for it fills; a request whose computation fails drops the slot
again. The counters say how many requests found an entry, how many did not, and
how many computations succeeded.

The steps of a request are functions of their own, so that a request can be
run at once or step by step beside others. Slots are numbered in the order in
which they were made and are never reused.
-/

namespace RowBinding

/-- Counters of a store of compiled entries. -/
structure CacheStats where
  hits : Nat := 0
  misses : Nat := 0
  compilations : Nat := 0
  size : Nat := 0
  deriving DecidableEq

/-- A store that answers a request with the entry that it keeps or computes. -/
structure CacheStore (σ ε : Type) where
  getOrCompute :
    Fingerprint → (Unit → Except BindError ε) → σ → Except BindError ε × σ
  stats : σ → CacheStats
  clear : σ → σ

/-- Slots with their contents, the slots that keys are mapped to, and counters. -/
structure BindingCache (ε : Type) where
  slots : List (Option ε) := []
  mapping : List (Fingerprint × Nat) := []
  hits : Nat := 0
  misses : Nat := 0
  compilations : Nat := 0

namespace BindingCache

variable {ε : Type}

/-- The slot that a key is mapped to. -/
def slot? (cache : BindingCache ε) (key : Fingerprint) : Option Nat :=
  cache.mapping.lookup key

/-- The entry in a slot. -/
def content? (cache : BindingCache ε) (slot : Nat) : Option ε :=
  cache.slots[slot]?.join

/-- The entry that a key is mapped to. -/
def get? (cache : BindingCache ε) (key : Fingerprint) : Option ε :=
  (cache.slot? key).bind cache.content?

/-- The slot of a key, made empty if there is none. -/
def fetchSlot (cache : BindingCache ε) (key : Fingerprint) : Nat × BindingCache ε :=
  match cache.slot? key with
  | some slot => (slot, cache)
  | none =>
      (cache.slots.length,
        { cache with
          slots := cache.slots ++ [none]
          mapping := (key, cache.slots.length) :: cache.mapping })

/-- Count a request that found an entry. -/
def countHit (cache : BindingCache ε) : BindingCache ε :=
  { cache with hits := cache.hits + 1 }

/-- Count a request that found no entry. -/
def countMiss (cache : BindingCache ε) : BindingCache ε :=
  { cache with misses := cache.misses + 1 }

/-- Take a slot out of the mapping if its key is still mapped to it. -/
def dropSlot (cache : BindingCache ε) (key : Fingerprint) (slot : Nat) :
    BindingCache ε :=
  { cache with mapping := cache.mapping.filter (· != (key, slot)) }

/-- Put an entry into a slot and count the computation. -/
def fillSlot (cache : BindingCache ε) (slot : Nat) (entry : ε) : BindingCache ε :=
  { cache with
    slots := cache.slots.set slot (some entry)
    compilations := cache.compilations + 1 }

/-- Map a key to a slot if it is mapped to none. -/
def mapSlot (cache : BindingCache ε) (key : Fingerprint) (slot : Nat) :
    BindingCache ε :=
  match cache.slot? key with
  | some _ => cache
  | none => { cache with mapping := (key, slot) :: cache.mapping }

/-- Answer a request with the entry of its key, computing it if there is none. -/
def getOrCompute
    (key : Fingerprint)
    (compute : Unit → Except BindError ε)
    (cache : BindingCache ε) : Except BindError ε × BindingCache ε :=
  let (slot, fetched) := cache.fetchSlot key
  match fetched.content? slot with
  | some entry => (.ok entry, fetched.countHit)
  | none =>
      match compute () with
      | .ok entry => (.ok entry, (fetched.countMiss.fillSlot slot entry).mapSlot key slot)
      | .error error => (.error error, fetched.countMiss.dropSlot key slot)

/-- The counters, with the number of keys whose slot is filled. -/
def stats (cache : BindingCache ε) : CacheStats where
  hits := cache.hits
  misses := cache.misses
  compilations := cache.compilations
  size := cache.mapping.countP fun mapped => (cache.content? mapped.2).isSome

/-- Forget every key and every count. -/
def clear (cache : BindingCache ε) : BindingCache ε :=
  { slots := cache.slots }

/-- The cache as a store. -/
def store (ε : Type) : CacheStore (BindingCache ε) ε where
  getOrCompute := getOrCompute
  stats := stats
  clear := clear

@[simp] theorem stats_clear (cache : BindingCache ε) : cache.clear.stats = {} := rfl

end BindingCache
end RowBinding
