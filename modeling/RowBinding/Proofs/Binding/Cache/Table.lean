import RowBinding.Proofs.Binding.Cache.Slots

/-!
# The cache as a table

Requests that run one after another cannot tell the slots of a cache from a
table of entries by key. A request is answered from the table, or else by its
own computation, and afterwards the table holds the answer under the key if it
is an entry, and what it held before under every other key.
-/

namespace RowBinding
namespace BindingCache

variable {ε : Type}

/-- Every key is mapped at most once, to a slot of its own that is there. -/
structure Sound (cache : BindingCache ε) : Prop where
  mapsOnce : cache.MapsOnce
  inRange : ∀ {key : Fingerprint} {slot : Nat},
    (key, slot) ∈ cache.mapping → slot < cache.slots.length
  owned : ∀ {first second : Fingerprint} {slot : Nat},
    (first, slot) ∈ cache.mapping → (second, slot) ∈ cache.mapping → first = second

theorem sound_empty : Sound ({} : BindingCache ε) where
  mapsOnce := List.nodup_nil
  inRange member := by cases member
  owned member := by cases member

theorem slot?_cons
    (slots : List (Option ε))
    (mapping : List (Fingerprint × Nat))
    (hits misses compilations slot : Nat)
    (key other : Fingerprint) :
    slot? ⟨slots, (key, slot) :: mapping, hits, misses, compilations⟩ other =
      if other = key then some slot
      else slot? ⟨slots, mapping, hits, misses, compilations⟩ other := by
  by_cases same : other = key
  · subst same
    simp [slot?]
  · simp [slot?, List.lookup_cons, beq_false_of_ne same, same]

theorem MapsOnce.slot?_eq_some_iff
    {cache : BindingCache ε}
    {key : Fingerprint}
    {slot : Nat}
    (once : cache.MapsOnce) :
    cache.slot? key = some slot ↔ (key, slot) ∈ cache.mapping := by
  constructor
  · exact mem_of_slot?
  · intro member
    cases mapped : cache.slot? key with
    | none =>
        have isKey : key ∈ cache.mapping.map Prod.fst := List.mem_map.mpr ⟨_, member, rfl⟩
        exact absurd isKey (not_mem_of_slot? mapped)
    | some other => rw [once.unique (mem_of_slot? mapped) member]

/-! ## Fetching a slot -/

theorem slot?_fetchSlot_self (cache : BindingCache ε) (key : Fingerprint) :
    (cache.fetchSlot key).2.slot? key = some (cache.fetchSlot key).1 := by
  cases mapped : cache.slot? key with
  | some slot => rw [fetchSlot_of_mapped mapped, mapped]
  | none => rw [fetchSlot_of_unmapped mapped, slot?_cons, if_pos rfl]

/-- A slot that is made for a key is empty, so fetching it leaves the table. -/
theorem get?_fetchSlot (cache : BindingCache ε) (key other : Fingerprint) :
    (cache.fetchSlot key).2.get? other = cache.get? other := by
  have sameContent : (cache.fetchSlot key).2.content? = cache.content? :=
    funext (content?_fetchSlot cache key)
  rw [get?, get?, sameContent]
  cases mapped : cache.slot? key with
  | some slot => rw [fetchSlot_of_mapped mapped]
  | none =>
      rw [fetchSlot_of_unmapped mapped, slot?_cons]
      by_cases same : other = key
      · rw [if_pos same, same, mapped]
        simp [content?]
      · rw [if_neg same]
        rfl

theorem content?_fetchSlot_self (cache : BindingCache ε) (key : Fingerprint) :
    (cache.fetchSlot key).2.content? (cache.fetchSlot key).1 = cache.get? key := by
  rw [← get?_fetchSlot cache key key, get?, slot?_fetchSlot_self]
  rfl

theorem Sound.fetchSlot
    {cache : BindingCache ε}
    (sound : cache.Sound)
    (key : Fingerprint) :
    (cache.fetchSlot key).2.Sound := by
  have ownSlot {other : Fingerprint}
      (isMapped : (other, (cache.fetchSlot key).1) ∈ cache.mapping) : other = key := by
    rcases fetchSlot_known_or_fresh cache key with known | ⟨fresh, _⟩
    · exact sound.owned isMapped known
    · have inRange := sound.inRange isMapped
      omega
  refine ⟨sound.mapsOnce.fetchSlot key, fun isMapped => ?_, fun isFirst isSecond => ?_⟩
  · rcases mem_mapping_fetchSlot.mp isMapped with fetched | known
    · cases fetched
      rcases fetchSlot_known_or_fresh cache key with known | ⟨fresh, added⟩
      · exact Nat.lt_of_lt_of_le (sound.inRange known) (length_le_fetchSlot cache key)
      · exact fresh ▸ added
    · exact Nat.lt_of_lt_of_le (sound.inRange known) (length_le_fetchSlot cache key)
  · rcases mem_mapping_fetchSlot.mp isFirst with fetched | known <;>
      rcases mem_mapping_fetchSlot.mp isSecond with fetchedToo | knownToo
    · exact (Prod.mk.inj fetched).1.trans (Prod.mk.inj fetchedToo).1.symm
    · cases fetched
      exact (ownSlot knownToo).symm
    · cases fetchedToo
      exact ownSlot known
    · exact sound.owned known knownToo

/-! ## Filling and dropping the slot of a key -/

section Mapped

variable {cache : BindingCache ε} {key : Fingerprint} {slot : Nat}

theorem mapSlot_of_mapped (mapped : cache.slot? key = some slot) (other : Nat) :
    cache.mapSlot key other = cache := by
  rw [mapSlot, mapped]

theorem get?_fillSlot
    (sound : cache.Sound)
    (mapped : cache.slot? key = some slot)
    (entry : ε)
    (other : Fingerprint) :
    (cache.fillSlot slot entry).get? other =
      if other = key then some entry else cache.get? other := by
  have isMapped := mem_of_slot? mapped
  by_cases same : other = key
  · subst same
    rw [if_pos rfl, get?]
    change (cache.slot? other).bind _ = _
    rw [mapped, Option.bind_some, content?_fillSlot_self (sound.inRange isMapped)]
  · rw [if_neg same, get?, get?]
    change (cache.slot? other).bind _ = _
    cases otherMapped : cache.slot? other with
    | none => rfl
    | some otherSlot =>
        have different : slot ≠ otherSlot := by
          rintro rfl
          exact same (sound.owned (mem_of_slot? otherMapped) isMapped)
        rw [Option.bind_some, Option.bind_some, content?_fillSlot_of_ne different]

theorem Sound.fillSlot (sound : cache.Sound) (slot : Nat) (entry : ε) :
    (cache.fillSlot slot entry).Sound where
  mapsOnce := sound.mapsOnce
  inRange isMapped := by
    rw [length_fillSlot]
    exact sound.inRange isMapped
  owned := sound.owned

theorem slot?_dropSlot
    (sound : cache.Sound)
    (mapped : cache.slot? key = some slot)
    (other : Fingerprint) :
    (cache.dropSlot key slot).slot? other = if other = key then none else cache.slot? other := by
  apply Option.ext
  intro found
  rw [(sound.mapsOnce.dropSlot key slot).slot?_eq_some_iff, mem_mapping_dropSlot]
  by_cases same : other = key
  · subst same
    rw [if_pos rfl]
    refine ⟨fun ⟨member, different⟩ => ?_, fun isNone => by cases isNone⟩
    rw [sound.mapsOnce.unique member (mem_of_slot? mapped)] at different
    exact absurd rfl different
  · rw [if_neg same, sound.mapsOnce.slot?_eq_some_iff]
    exact and_iff_left fun isDropped => same (Prod.mk.inj isDropped).1

theorem get?_dropSlot
    (sound : cache.Sound)
    (mapped : cache.slot? key = some slot)
    (other : Fingerprint) :
    (cache.dropSlot key slot).get? other = if other = key then none else cache.get? other := by
  rw [get?, slot?_dropSlot sound mapped]
  by_cases same : other = key
  · rw [if_pos same, if_pos same]
    rfl
  · rw [if_neg same, if_neg same]
    rfl

theorem Sound.dropSlot (sound : cache.Sound) (key : Fingerprint) (slot : Nat) :
    (cache.dropSlot key slot).Sound where
  mapsOnce := sound.mapsOnce.dropSlot key slot
  inRange isMapped := sound.inRange (mem_mapping_dropSlot.mp isMapped).1
  owned isFirst isSecond :=
    sound.owned (mem_mapping_dropSlot.mp isFirst).1 (mem_mapping_dropSlot.mp isSecond).1

end Mapped

/-! ## Requests -/

/-- The answer of a table to a request. -/
def answer (kept : Option ε) (computed : Except BindError ε) : Except BindError ε :=
  match kept with
  | some entry => .ok entry
  | none => computed

section Request

variable {cache : BindingCache ε}

theorem getOrCompute_eq
    (key : Fingerprint)
    (compute : Unit → Except BindError ε) :
    cache.getOrCompute key compute =
      match cache.get? key with
      | some entry => (.ok entry, (cache.fetchSlot key).2.countHit)
      | none =>
          match compute () with
          | .ok entry =>
              (.ok entry, (cache.fetchSlot key).2.countMiss.fillSlot (cache.fetchSlot key).1 entry)
          | .error error =>
              (.error error,
                (cache.fetchSlot key).2.countMiss.dropSlot key (cache.fetchSlot key).1) := by
  have mapped := slot?_fetchSlot_self cache key
  rw [getOrCompute, ← content?_fetchSlot_self cache key]
  dsimp only
  cases (cache.fetchSlot key).2.content? (cache.fetchSlot key).1 with
  | some entry => rfl
  | none =>
      cases compute () with
      | error error => rfl
      | ok entry =>
          have stillMapped : ((cache.fetchSlot key).2.countMiss.fillSlot
              (cache.fetchSlot key).1 entry).slot? key = some (cache.fetchSlot key).1 := mapped
          dsimp only
          rw [mapSlot_of_mapped stillMapped]

/-- A request is answered from the table, or by its computation. -/
theorem fst_getOrCompute
    (key : Fingerprint)
    (compute : Unit → Except BindError ε) :
    (cache.getOrCompute key compute).1 = answer (cache.get? key) (compute ()) := by
  rw [getOrCompute_eq]
  cases cache.get? key with
  | some entry => rfl
  | none => cases compute () <;> rfl

theorem Sound.countMiss (sound : cache.Sound) : cache.countMiss.Sound :=
  ⟨sound.mapsOnce, sound.inRange, sound.owned⟩

theorem Sound.countHit (sound : cache.Sound) : cache.countHit.Sound :=
  ⟨sound.mapsOnce, sound.inRange, sound.owned⟩

theorem Sound.getOrCompute
    (sound : cache.Sound)
    (key : Fingerprint)
    (compute : Unit → Except BindError ε) :
    (cache.getOrCompute key compute).2.Sound := by
  rw [getOrCompute_eq]
  cases cache.get? key with
  | some entry => exact (sound.fetchSlot key).countHit
  | none =>
      cases compute () with
      | ok entry => exact (sound.fetchSlot key).countMiss.fillSlot _ entry
      | error error => exact (sound.fetchSlot key).countMiss.dropSlot key _

/-- After a request the table holds the answer under the key, if it is an entry. -/
theorem get?_getOrCompute
    (sound : cache.Sound)
    (key : Fingerprint)
    (compute : Unit → Except BindError ε)
    (other : Fingerprint) :
    (cache.getOrCompute key compute).2.get? other =
      if other = key then (answer (cache.get? key) (compute ())).toOption
      else cache.get? other := by
  have fetched := get?_fetchSlot cache key
  have fetchedSound := (sound.fetchSlot key).countMiss
  have mapped : (cache.fetchSlot key).2.countMiss.slot? key = some (cache.fetchSlot key).1 :=
    slot?_fetchSlot_self cache key
  rw [getOrCompute_eq]
  cases known : cache.get? key with
  | some entry =>
      change (cache.fetchSlot key).2.get? other = _
      rw [fetched]
      by_cases same : other = key
      · rw [if_pos same, same, known]
        rfl
      · rw [if_neg same]
  | none =>
      cases computed : compute () with
      | ok entry =>
          change ((cache.fetchSlot key).2.countMiss.fillSlot _ entry).get? other = _
          rw [get?_fillSlot fetchedSound mapped]
          exact if_congr Iff.rfl rfl (fetched other)
      | error error =>
          change ((cache.fetchSlot key).2.countMiss.dropSlot key _).get? other = _
          rw [get?_dropSlot fetchedSound mapped]
          exact if_congr Iff.rfl rfl (fetched other)

end Request

end BindingCache
end RowBinding
