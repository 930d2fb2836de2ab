import Mathlib.Data.List.Nodup
import RowBinding.Binding.Cache

/-!
# Slots of a cache

What the parts of a request do to the slots of a cache and to the keys that
are mapped to them. Slots are only ever added and filled, and a key is mapped
to one slot at a time.
-/

namespace RowBinding
namespace BindingCache

variable {ε : Type}

/-- Every key is mapped at most once. -/
def MapsOnce (cache : BindingCache ε) : Prop :=
  (cache.mapping.map Prod.fst).Nodup

theorem mem_of_slot?
    {cache : BindingCache ε}
    {key : Fingerprint}
    {slot : Nat}
    (mapped : cache.slot? key = some slot) :
    (key, slot) ∈ cache.mapping := by
  obtain ⟨before, after, split, _⟩ := List.lookup_eq_some_iff.mp mapped
  rw [split]
  simp

theorem not_mem_of_slot?
    {cache : BindingCache ε}
    {key : Fingerprint}
    (unmapped : cache.slot? key = none) :
    key ∉ cache.mapping.map Prod.fst := by
  intro isKey
  obtain ⟨pair, member, rfl⟩ := List.mem_map.mp isKey
  have different := List.lookup_eq_none_iff.mp unmapped pair member
  simp at different

theorem MapsOnce.unique
    {cache : BindingCache ε}
    {key : Fingerprint}
    {first second : Nat}
    (once : cache.MapsOnce)
    (isFirst : (key, first) ∈ cache.mapping)
    (isSecond : (key, second) ∈ cache.mapping) :
    first = second :=
  congrArg Prod.snd (List.inj_on_of_nodup_map once isFirst isSecond rfl)

theorem MapsOnce.cons
    {cache : BindingCache ε}
    {key : Fingerprint}
    (once : cache.MapsOnce)
    (unmapped : cache.slot? key = none)
    (slot : Nat) :
    (((key, slot) :: cache.mapping).map Prod.fst).Nodup :=
  List.nodup_cons.mpr ⟨not_mem_of_slot? unmapped, once⟩

/-! ## Fetching a slot -/

theorem fetchSlot_of_mapped
    {cache : BindingCache ε}
    {key : Fingerprint}
    {slot : Nat}
    (mapped : cache.slot? key = some slot) :
    cache.fetchSlot key = (slot, cache) := by
  rw [fetchSlot, mapped]

theorem fetchSlot_of_unmapped
    {cache : BindingCache ε}
    {key : Fingerprint}
    (unmapped : cache.slot? key = none) :
    cache.fetchSlot key =
      (cache.slots.length,
        { cache with
          slots := cache.slots ++ [none]
          mapping := (key, cache.slots.length) :: cache.mapping }) := by
  rw [fetchSlot, unmapped]

theorem mem_mapping_fetchSlot
    {cache : BindingCache ε}
    {key : Fingerprint}
    {pair : Fingerprint × Nat} :
    pair ∈ (cache.fetchSlot key).2.mapping ↔
      pair = (key, (cache.fetchSlot key).1) ∨ pair ∈ cache.mapping := by
  cases mapped : cache.slot? key with
  | some slot =>
      rw [fetchSlot_of_mapped mapped]
      constructor
      · exact .inr
      · rintro (rfl | member)
        · exact mem_of_slot? mapped
        · exact member
  | none =>
      rw [fetchSlot_of_unmapped mapped]
      exact List.mem_cons

/-- The slot that is fetched for a key is its slot, or a new one. -/
theorem fetchSlot_known_or_fresh (cache : BindingCache ε) (key : Fingerprint) :
    (key, (cache.fetchSlot key).1) ∈ cache.mapping ∨
      (cache.fetchSlot key).1 = cache.slots.length ∧
        cache.slots.length < (cache.fetchSlot key).2.slots.length := by
  cases mapped : cache.slot? key with
  | some slot =>
      rw [fetchSlot_of_mapped mapped]
      exact .inl (mem_of_slot? mapped)
  | none =>
      rw [fetchSlot_of_unmapped mapped]
      exact .inr ⟨rfl, by simp⟩

theorem length_le_fetchSlot (cache : BindingCache ε) (key : Fingerprint) :
    cache.slots.length ≤ (cache.fetchSlot key).2.slots.length := by
  cases mapped : cache.slot? key with
  | some slot => simp [fetchSlot_of_mapped mapped]
  | none => simp [fetchSlot_of_unmapped mapped]

@[simp] theorem content?_fetchSlot
    (cache : BindingCache ε)
    (key : Fingerprint)
    (slot : Nat) :
    (cache.fetchSlot key).2.content? slot = cache.content? slot := by
  cases mapped : cache.slot? key with
  | some known => rw [fetchSlot_of_mapped mapped]
  | none =>
      rw [fetchSlot_of_unmapped mapped]
      change (cache.slots ++ [none])[slot]?.join = cache.slots[slot]?.join
      rcases Nat.lt_or_ge slot cache.slots.length with old | new
      · rw [List.getElem?_append_left old]
      · rw [List.getElem?_append_right new, List.getElem?_eq_none new]
        cases slot - cache.slots.length <;> rfl

theorem MapsOnce.fetchSlot
    {cache : BindingCache ε}
    (once : cache.MapsOnce)
    (key : Fingerprint) :
    (cache.fetchSlot key).2.MapsOnce := by
  cases mapped : cache.slot? key with
  | some slot =>
      rw [fetchSlot_of_mapped mapped]
      exact once
  | none =>
      rw [fetchSlot_of_unmapped mapped]
      exact once.cons mapped _

/-! ## Dropping, filling and mapping a slot -/

theorem mem_mapping_dropSlot
    {cache : BindingCache ε}
    {key : Fingerprint}
    {slot : Nat}
    {pair : Fingerprint × Nat} :
    pair ∈ (cache.dropSlot key slot).mapping ↔
      pair ∈ cache.mapping ∧ pair ≠ (key, slot) := by
  simp [dropSlot]

theorem MapsOnce.dropSlot
    {cache : BindingCache ε}
    (once : cache.MapsOnce)
    (key : Fingerprint)
    (slot : Nat) :
    (cache.dropSlot key slot).MapsOnce :=
  once.sublist (List.filter_sublist.map Prod.fst)

theorem length_fillSlot (cache : BindingCache ε) (slot : Nat) (entry : ε) :
    (cache.fillSlot slot entry).slots.length = cache.slots.length :=
  List.length_set

theorem content?_fillSlot_self
    {cache : BindingCache ε}
    {slot : Nat}
    (inRange : slot < cache.slots.length)
    (entry : ε) :
    (cache.fillSlot slot entry).content? slot = some entry := by
  simp [content?, fillSlot, inRange]

theorem content?_fillSlot_of_ne
    {cache : BindingCache ε}
    {slot other : Nat}
    (different : slot ≠ other)
    (entry : ε) :
    (cache.fillSlot slot entry).content? other = cache.content? other := by
  simp [content?, fillSlot, different]

theorem content?_fillSlot_eq_some
    {cache : BindingCache ε}
    {slot other : Nat}
    {entry content : ε}
    (filled : (cache.fillSlot slot entry).content? other = some content) :
    cache.content? other = some content ∨ slot = other ∧ entry = content := by
  by_cases same : slot = other
  · subst same
    rcases Nat.lt_or_ge slot cache.slots.length with inRange | beyond
    · rw [content?_fillSlot_self inRange] at filled
      exact .inr ⟨rfl, Option.some.inj filled⟩
    · simp [content?, fillSlot, beyond] at filled
  · rw [content?_fillSlot_of_ne same] at filled
    exact .inl filled

theorem lt_length_of_content?
    {cache : BindingCache ε}
    {slot : Nat}
    {entry : ε}
    (filled : cache.content? slot = some entry) :
    slot < cache.slots.length := by
  rcases Nat.lt_or_ge slot cache.slots.length with inRange | beyond
  · exact inRange
  · simp [content?, beyond] at filled

theorem slots_mapSlot (cache : BindingCache ε) (key : Fingerprint) (slot : Nat) :
    (cache.mapSlot key slot).slots = cache.slots := by
  unfold mapSlot
  split <;> rfl

theorem mem_mapping_mapSlot
    {cache : BindingCache ε}
    {key : Fingerprint}
    {slot : Nat}
    {pair : Fingerprint × Nat}
    (member : pair ∈ (cache.mapSlot key slot).mapping) :
    pair = (key, slot) ∨ pair ∈ cache.mapping := by
  unfold mapSlot at member
  split at member
  · exact .inr member
  · exact List.mem_cons.mp member

theorem mem_mapping_mapSlot_of_mem
    {cache : BindingCache ε}
    {pair : Fingerprint × Nat}
    (member : pair ∈ cache.mapping)
    (key : Fingerprint)
    (slot : Nat) :
    pair ∈ (cache.mapSlot key slot).mapping := by
  unfold mapSlot
  split
  · exact member
  · exact List.mem_cons_of_mem _ member

theorem MapsOnce.mapSlot
    {cache : BindingCache ε}
    (once : cache.MapsOnce)
    (key : Fingerprint)
    (slot : Nat) :
    (cache.mapSlot key slot).MapsOnce := by
  unfold BindingCache.mapSlot
  split
  · exact once
  · next unmapped => exact once.cons unmapped slot

end BindingCache
end RowBinding
