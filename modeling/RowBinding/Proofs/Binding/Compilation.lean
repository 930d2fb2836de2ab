import RowBinding.Binding.Compiled
import RowBinding.Proofs.Binding.Cache.Table
import RowBinding.Proofs.Binding.Fingerprint
import RowBinding.Proofs.Outcome

/-!
# Compiling through a cache

A compiler reads nothing of a schema but what a key records, so schemas of one
shape have one binder. A compiler with a cache of its own therefore returns for
every schema what it builds without the cache, and it returns the very binder
that the first schema of the shape left there.
-/

namespace RowBinding
namespace Compiler

/-! ## Building reads the shape alone -/

section Shape

variable {τ : Type}

theorem planColumn_eq_of_shape
    {column other : ColumnDescriptor}
    (same : column.shape = other.shape)
    (ordinal : Nat)
    (member : MemberDescriptor τ)
    (sink : Sink) :
    planColumn ordinal column member sink = planColumn ordinal other member sink := by
  simp only [ColumnDescriptor.shape, Prod.mk.injEq] at same
  obtain ⟨sameName, sameType, sameNullable⟩ := same
  unfold planColumn
  rw [sameName, sameType, sameNullable]

theorem planMembers_eq_of_shape
    (target : TargetDescriptor τ)
    {columns : List ColumnDescriptor} :
    ∀ {others : List ColumnDescriptor} (ordinal setterCount : Nat),
      columns.map ColumnDescriptor.shape = others.map ColumnDescriptor.shape →
        planMembers target ordinal setterCount columns =
          planMembers target ordinal setterCount others := by
  induction columns with
  | nil =>
      intro others ordinal setterCount same
      cases others with
      | nil => rfl
      | cons other others => cases same
  | cons column columns inductionHypothesis =>
      intro others ordinal setterCount same
      cases others with
      | nil => cases same
      | cons other others =>
          obtain ⟨sameShape, sameRest⟩ := List.cons.inj same
          have sameName : column.name = other.name := congrArg Prod.fst sameShape
          unfold planMembers
          simp only [sameName, planColumn_eq_of_shape sameShape,
            inductionHypothesis _ _ sameRest]

theorem planSlots_eq_of_shape
    (config : BindingConfig)
    (target : TargetDescriptor τ)
    {columns : List ColumnDescriptor} :
    ∀ {others : List ColumnDescriptor} (ordinal : Nat),
      columns.map ColumnDescriptor.shape = others.map ColumnDescriptor.shape →
        planSlots config target ordinal columns = planSlots config target ordinal others := by
  induction columns with
  | nil =>
      intro others ordinal same
      cases others with
      | nil => rfl
      | cons other others => cases same
  | cons column columns inductionHypothesis =>
      intro others ordinal same
      cases others with
      | nil => cases same
      | cons other others =>
          obtain ⟨sameShape, sameRest⟩ := List.cons.inj same
          have sameName : column.name = other.name := congrArg Prod.fst sameShape
          unfold planSlots
          simp only [checkPlaceholder, sameName, planColumn_eq_of_shape sameShape,
            inductionHypothesis _ sameRest]

theorem planScalar_eq_of_shape
    (target : TargetDescriptor τ)
    {schema other : RowSchema}
    (same : schema.shape = other.shape) :
    planScalar target schema = planScalar target other := by
  obtain ⟨columns⟩ := schema
  obtain ⟨others⟩ := other
  unfold planScalar
  cases columns with
  | nil =>
      cases others with
      | nil => rfl
      | cons other others => cases same
  | cons column columns =>
      cases others with
      | nil => cases same
      | cons other others =>
          obtain ⟨sameShape, _⟩ := List.cons.inj same
          cases target.members with
          | nil => rfl
          | cons member members =>
              dsimp only
              rw [planColumn_eq_of_shape sameShape]

/-- Schemas of one shape are compiled alike. -/
theorem build_eq_of_shape
    (compiler : Compiler)
    (typeName : String)
    (target : TargetDescriptor τ)
    {schema other : RowSchema}
    (same : schema.shape = other.shape) :
    compiler.build typeName target schema = compiler.build typeName target other := by
  have sameKey : Fingerprint.of typeName target schema = .of typeName target other :=
    (Fingerprint.of_eq_of_iff_of_identity rfl).mpr ⟨rfl, same⟩
  unfold build
  rw [sameKey, planMembers_eq_of_shape target 0 0 same,
    planSlots_eq_of_shape compiler.config target 0 same, planScalar_eq_of_shape target same]

end Shape

/-! ## One request -/

variable {κ : Type} [ResultFamily κ]

/-- What a compiler computes for the cache if a key has no entry. -/
def newEntry
    (compiler : Compiler)
    (code : κ)
    (target : TargetDescriptor (ResultFamily.Carrier code))
    (schema : RowSchema)
    (serial : Nat) : Except BindError (CompiledEntry κ) :=
  (compiler.build (ResultFamily.typeName code) target schema).map fun binder =>
    ⟨code, binder, serial⟩

section Request

variable [DecidableEq κ]

/-- The binder in an entry for a key, if it makes objects of the wanted type. -/
def takeBinder (code : κ) (key : Fingerprint) (entry : CompiledEntry κ) :
    Except BindError (Binder (ResultFamily.Carrier code) × Nat) :=
  match entry.binderOf? code with
  | some binder => .ok (binder, entry.serial)
  | none => .error (.cacheTypeMismatch key.text)

@[simp] theorem takeBinder_mk
    (code : κ)
    (key : Fingerprint)
    (binder : Binder (ResultFamily.Carrier code))
    (serial : Nat) :
    takeBinder code key ⟨code, binder, serial⟩ = .ok (binder, serial) := by
  have isSame := CompiledEntry.binderOf?_self ⟨code, binder, serial⟩
  rw [takeBinder, isSame]

@[simp] theorem newEntry_bind_takeBinder
    (compiler : Compiler)
    (code : κ)
    (target : TargetDescriptor (ResultFamily.Carrier code))
    (schema : RowSchema)
    (serial : Nat)
    (key : Fingerprint) :
    (compiler.newEntry code target schema serial >>= takeBinder code key) =
      (compiler.build (ResultFamily.typeName code) target schema).map fun binder =>
        (binder, serial) := by
  unfold newEntry
  cases compiler.build (ResultFamily.typeName code) target schema with
  | error error => rfl
  | ok binder => exact takeBinder_mk code key binder serial

/-- A request takes the binder from what the table of the cache answers. -/
theorem compile_apply
    (compiler : Compiler)
    (code : κ)
    (target : TargetDescriptor (ResultFamily.Carrier code))
    (schema : RowSchema)
    (cache : BindingCache (CompiledEntry κ))
    (serial : Nat) :
    compiler.compile (BindingCache.store (CompiledEntry κ)) code target schema
        (cache, serial) =
      let key := Fingerprint.of (ResultFamily.typeName code) target schema
      let compute := fun _ => compiler.newEntry code target schema serial
      (BindingCache.answer (cache.get? key) (compute ()) >>= takeBinder code key,
        ((cache.getOrCompute key compute).2, serial + 1)) := by
  have answered := @BindingCache.fst_getOrCompute _ cache
    (Fingerprint.of (ResultFamily.typeName code) target schema)
    fun _ => compiler.newEntry code target schema serial
  unfold compile BindingCache.store
  dsimp only [newEntry] at answered ⊢
  rw [← answered]
  generalize cache.getOrCompute _ _ = requested
  obtain ⟨result, moved⟩ := requested
  cases result with
  | error error => rfl
  | ok entry =>
      dsimp only [Outcome.ok_bind, takeBinder]
      cases entry.binderOf? code <;> rfl

end Request

/-! ## One compiler with a cache of its own -/

section Own

variable
  (compiler : Compiler)
  (code : κ)
  (target : TargetDescriptor (ResultFamily.Carrier code))

/-- The position of the first schema of the shape of a schema. -/
def firstOfShape (schemas : List RowSchema) (schema : RowSchema) : Nat :=
  schemas.findIdx fun other => other.shape = schema.shape

/-- The entry that compiling some schemas leaves for a schema. -/
def entryAfter (first : Nat) (earlier : List RowSchema) (schema : RowSchema) :
    Option (CompiledEntry κ) :=
  if firstOfShape earlier schema < earlier.length then
    (compiler.newEntry code target schema (first + firstOfShape earlier schema)).toOption
  else
    none

/-- A cache holds what compiling some schemas leaves in it. -/
structure Tracks
    (cache : BindingCache (CompiledEntry κ))
    (first : Nat)
    (earlier : List RowSchema) : Prop where
  sound : cache.Sound
  table : ∀ schema,
    cache.get? (.of (ResultFamily.typeName code) target schema) =
      compiler.entryAfter code target first earlier schema

theorem firstOfShape_append (earlier later : List RowSchema) (schema : RowSchema) :
    firstOfShape (earlier ++ later) schema =
      if firstOfShape earlier schema < earlier.length then firstOfShape earlier schema
      else firstOfShape later schema + earlier.length :=
  List.findIdx_append

theorem firstOfShape_congr
    {schema other : RowSchema}
    (same : schema.shape = other.shape)
    (schemas : List RowSchema) :
    firstOfShape schemas schema = firstOfShape schemas other := by
  rw [firstOfShape, firstOfShape, same]

@[simp] theorem firstOfShape_cons_self (schema : RowSchema) (later : List RowSchema) :
    firstOfShape (schema :: later) schema = 0 := by
  simp [firstOfShape, List.findIdx_cons]

theorem firstOfShape_concat_lt (earlier : List RowSchema) (schema : RowSchema) :
    firstOfShape (earlier ++ [schema]) schema < (earlier ++ [schema]).length :=
  List.findIdx_lt_length_of_exists ⟨schema, by simp⟩

/-- A schema is answered with what the first schema of its shape left. -/
theorem answer_entryAfter
    (first : Nat)
    (earlier : List RowSchema)
    (schema : RowSchema) :
    BindingCache.answer (compiler.entryAfter code target first earlier schema)
        (compiler.newEntry code target schema (first + earlier.length)) =
      compiler.newEntry code target schema
        (first + firstOfShape (earlier ++ [schema]) schema) := by
  rw [entryAfter, firstOfShape_append, firstOfShape_cons_self, Nat.zero_add]
  by_cases known : firstOfShape earlier schema < earlier.length
  · rw [if_pos known, if_pos known, newEntry, newEntry]
    cases compiler.build (ResultFamily.typeName code) target schema <;> rfl
  · rw [if_neg known, if_neg known]
    rfl

theorem entryAfter_concat
    (first : Nat)
    (earlier : List RowSchema)
    (schema other : RowSchema) :
    compiler.entryAfter code target first (earlier ++ [schema]) other =
      if other.shape = schema.shape then
        (compiler.newEntry code target schema
          (first + firstOfShape (earlier ++ [schema]) schema)).toOption
      else compiler.entryAfter code target first earlier other := by
  by_cases same : other.shape = schema.shape
  · rw [if_pos same, entryAfter, firstOfShape_congr same,
      if_pos (firstOfShape_concat_lt earlier schema), newEntry, newEntry,
      build_eq_of_shape compiler _ target same]
  · have isNew : firstOfShape [schema] other = 1 := by
      simp [firstOfShape, List.findIdx_cons, Ne.symm same]
    rw [if_neg same, entryAfter, entryAfter, firstOfShape_append, isNew, List.length_append,
      List.length_singleton]
    by_cases known : firstOfShape earlier other < earlier.length
    · rw [if_pos known, if_pos (Nat.lt_succ_of_lt known), if_pos known]
    · rw [if_neg known, if_neg known, if_neg (by omega)]

variable {compiler code target} [DecidableEq κ]

theorem Tracks.compile
    {cache : BindingCache (CompiledEntry κ)}
    {first : Nat}
    {earlier : List RowSchema}
    (tracks : compiler.Tracks code target cache first earlier)
    (schema : RowSchema) :
    ∃ moved,
      compiler.compile (BindingCache.store (CompiledEntry κ)) code target schema
          (cache, first + earlier.length) =
        ((compiler.build (ResultFamily.typeName code) target schema).map fun binder =>
          (binder, first + firstOfShape (earlier ++ [schema]) schema),
          (moved, first + (earlier ++ [schema]).length)) ∧
      compiler.Tracks code target moved first (earlier ++ [schema]) := by
  refine ⟨_, ?_, tracks.sound.getOrCompute
    (.of (ResultFamily.typeName code) target schema)
    (fun _ => compiler.newEntry code target schema (first + earlier.length)),
    fun other => ?_⟩
  · rw [compile_apply]
    dsimp only
    rw [tracks.table, answer_entryAfter, newEntry_bind_takeBinder, List.length_append]
    rfl
  · rw [BindingCache.get?_getOrCompute tracks.sound, entryAfter_concat, tracks.table,
      tracks.table, answer_entryAfter]
    refine if_congr ?_ rfl rfl
    rw [Fingerprint.of_eq_of_iff_of_identity rfl]
    exact and_iff_right rfl

theorem Tracks.mapM_compile
    {first : Nat}
    {later : List RowSchema} :
    ∀ {cache : BindingCache (CompiledEntry κ)} {earlier : List RowSchema},
      compiler.Tracks code target cache first earlier →
        ((later.mapM (compiler.compile (BindingCache.store (CompiledEntry κ)) code target)).run
            (cache, first + earlier.length)).1 =
          later.map fun schema =>
            (compiler.build (ResultFamily.typeName code) target schema).map fun binder =>
              (binder, first + firstOfShape (earlier ++ later) schema) := by
  induction later with
  | nil => intros; rfl
  | cons schema later inductionHypothesis =>
      intro cache earlier tracks
      obtain ⟨moved, compiled, tracksMoved⟩ := tracks.compile schema
      have answered : (compiler.compile (BindingCache.store (CompiledEntry κ)) code target
          schema).run (cache, first + earlier.length) = _ := compiled
      have rest := inductionHypothesis tracksMoved
      have isFirst : firstOfShape (earlier ++ [schema] ++ later) schema =
          firstOfShape (earlier ++ [schema]) schema := by
        rw [firstOfShape_append, if_pos (firstOfShape_concat_lt earlier schema)]
      rw [List.append_cons, List.mapM_cons, StateT.run_bind, answered, List.map_cons, isFirst,
        ← rest]
      rfl

end Own

variable [DecidableEq κ]

/-- A compiler with a cache of its own returns for every schema what it builds without
the cache, with the serial number that the first schema of the shape drew. -/
theorem mapM_compile_eq_map_build
    (compiler : Compiler)
    (code : κ)
    (target : TargetDescriptor (ResultFamily.Carrier code))
    (schemas : List RowSchema)
    (serial : Nat) :
    ((schemas.mapM (compiler.compile (BindingCache.store (CompiledEntry κ)) code target)).run
        ({}, serial)).1 =
      schemas.map fun schema =>
        (compiler.build (ResultFamily.typeName code) target schema).map fun binder =>
          (binder, serial + firstOfShape schemas schema) := by
  have tracks : compiler.Tracks code target {} serial [] :=
    ⟨BindingCache.sound_empty, fun schema => rfl⟩
  exact tracks.mapM_compile

/-- A column of unknown nullability has the shape of a nullable one. -/
example :
    let columns : List ColumnDescriptor :=
      [⟨"id", .integer .int64, none⟩, ⟨"id", .integer .int64, some false⟩,
        ⟨"id", .integer .int64, some true⟩]
    let schemas : List RowSchema := columns.map fun column => ⟨[column]⟩
    schemas.map (firstOfShape schemas) = [0, 1, 0] := by
  decide

end Compiler
end RowBinding
