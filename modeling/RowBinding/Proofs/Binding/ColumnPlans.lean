import RowBinding.Proofs.Binding.BoundColumns

/-!
# The plan of a column

A compiled binder has a plan for every column of its schema that is bound to a
member, and the plan delivers what the cell of the column is worth to the
member. If it does not deliver a value, the binder makes no object of the row:
it fails as the plan does, or as an earlier column.
-/

namespace RowBinding

variable {τ : Type}

/-- A record holds a value at a position. -/
structure RowRecord.Holds (record : RowRecord) (ordinal : Nat) (cell : Value) : Prop where
  isNull : record.isNull ordinal = .ok cell.isNull
  value : record.value ordinal = .ok cell

namespace Binder

/-- The values of some plans are delivered, and taken by the object that is made. -/
def Takes (binder : Binder τ) (record : RowRecord) (plans : List ColumnPlan) : Prop :=
  match binder.construction with
  | .members allocated setters =>
      ∃ object, plans.foldlM (binder.assign setters record) allocated = .ok object
  | .positional _ defaults =>
      ∃ slots, plans.foldlM (binder.fill record) defaults = .ok slots
  | .scalar _ => plans = []

/-- A plan fails on a row, and with it the row, unless an earlier plan fails first. -/
def FailsAt
    (binder : Binder τ)
    (record : RowRecord)
    (earlier : List ColumnPlan)
    (plan : ColumnPlan)
    (error : BindError) : Prop :=
  binder.extract record plan = .error error ∧
    ∃ first, binder.bind record = .error first ∧
      (binder.Takes record earlier → first = error)

/-- A fold that fails at an element fails there, or at an earlier one. -/
theorem foldlM_eq_error
    {α β : Type}
    {step : α → β → Except BindError α}
    {element : β}
    {error : BindError}
    (fails : ∀ state, step state element = .error error)
    (earlier later : List β)
    (start : α) :
    ∃ first, (earlier ++ element :: later).foldlM step start = .error first ∧
      ((∃ state, earlier.foldlM step start = .ok state) → first = error) := by
  rw [List.foldlM_append]
  cases before : earlier.foldlM step start with
  | error first =>
      refine ⟨first, rfl, fun ⟨state, succeeds⟩ => ?_⟩
      cases succeeds
  | ok state =>
      refine ⟨error, ?_, fun _ => rfl⟩
      rw [Outcome.ok_bind, List.foldlM_cons, fails]
      rfl

theorem failsAt_of_extract
    {binder : Binder τ}
    {record : RowRecord}
    {earlier later : List ColumnPlan}
    {plan : ColumnPlan}
    {error : BindError}
    (isPlans : binder.plans = earlier ++ plan :: later)
    (isScalar : ∀ make, binder.construction = .scalar make → earlier = [])
    (fails : binder.extract record plan = .error error) :
    binder.FailsAt record earlier plan error := by
  refine ⟨fails, ?_⟩
  unfold bind Takes
  cases made : binder.construction with
  | members allocated setters =>
      dsimp only
      rw [isPlans]
      refine foldlM_eq_error (fun object => ?_) earlier later allocated
      rw [assign, fails]
      rfl
  | positional construct defaults =>
      dsimp only
      rw [isPlans]
      have fillFails : ∀ slots, binder.fill record slots plan = .error error := fun slots => by
        rw [fill, fails]
        rfl
      obtain ⟨first, isFirst, onlyThen⟩ := foldlM_eq_error fillFails earlier later defaults
      exact ⟨first, by rw [isFirst]; rfl, onlyThen⟩
  | scalar make =>
      dsimp only
      rw [isPlans, isScalar make made, List.nil_append]
      exact ⟨error, by dsimp only; rw [fails]; rfl, fun _ => rfl⟩

end Binder

namespace Compiler

/-- A cell that is not null is read as its column and its member say. -/
theorem cellValue_of_holds
    {compiler : Compiler}
    {record : RowRecord}
    {ordinal : Nat}
    {cell : Value}
    (column : ColumnDescriptor)
    (member : MemberDescriptor τ)
    (holds : record.Holds ordinal cell)
    (notNull : cell.isNull = false) :
    compiler.cellValue record ordinal column member = compiler.readCell column member cell := by
  unfold cellValue
  rw [holds.isNull, holds.value, notNull]
  cases column.isNullable <;> rfl

/-- A cell that is read as its column says comes to a member that is not JSON as what it
converts to, a float and a decimal through its text. -/
theorem cellValue_of_accepts
    {compiler : Compiler}
    {record : RowRecord}
    {ordinal : Nat}
    {column : ColumnDescriptor}
    {member : MemberDescriptor τ}
    {read : ReadOperation}
    {cell : Value}
    {target : DataType}
    (readable : ConversionRules.readOperation? column.dataType = some read)
    (accepted : read.accepts cell = true)
    (targeted : member.declaredType.dataType? = some target)
    (notObject : target ≠ .object)
    (notJson : member.isJson = false)
    (holds : record.Holds ordinal cell)
    (notNull : cell.isNull = false) :
    compiler.cellValue record ordinal column member =
      ((((if read.normalizesNumeric then cell.numericText? else none).map .string).getD
        cell).convert compiler.config.layouts target).mapError (.conversion column.name) := by
  rw [cellValue_of_holds column member holds notNull, readCell, readable]
  simp only [accepted, notJson, Bool.not_true, Bool.false_eq_true, if_false]
  exact convertedCell_of_ne_object targeted notObject

/-- A column of a schema is bound to a member of a target. -/
def Binds
    (target : TargetDescriptor τ)
    (schema : RowSchema)
    (ordinal : Nat)
    (column : ColumnDescriptor)
    (member : MemberDescriptor τ) : Prop :=
  schema.columns[ordinal]? = some column ∧
    match target.factory with
    | .scalar _ => ordinal = 0 ∧ target.members.head? = some member
    | _ => ∃ position, target.findMember? column.name = some (position, member)

/-- The plan of a column stands in a binder behind those of earlier columns. -/
structure HasPlan
    (compiler : Compiler)
    (binder : Binder τ)
    (earlier : List ColumnPlan)
    (plan : ColumnPlan)
    (ordinal : Nat)
    (column : ColumnDescriptor)
    (member : MemberDescriptor τ) : Prop where
  exists_later : ∃ later, binder.plans = earlier ++ plan :: later
  isScalar : ∀ make, binder.construction = .scalar make → earlier = []
  ordinal_eq : plan.ordinal = ordinal
  column_eq : plan.column = column.name
  extract_eq : ∀ record,
    binder.extract record plan = compiler.cellValue record ordinal column member

theorem exists_hasPlan_of_mem
    {compiler : Compiler}
    {binder : Binder τ}
    {plan : ColumnPlan}
    {ordinal : Nat}
    {column : ColumnDescriptor}
    {member : MemberDescriptor τ}
    {sink : Sink}
    (notScalar : ∀ make, binder.construction ≠ .scalar make)
    (extracts : ∀ record, binder.extract record plan =
      plan.extract compiler.codec compiler.config.layouts record)
    (isPlan : plan ∈ binder.plans)
    (planned : planColumn ordinal column member sink = .ok plan) :
    ∃ earlier plan, compiler.HasPlan binder earlier plan ordinal column member := by
  obtain ⟨earlier, later, isPlans⟩ := List.append_of_mem isPlan
  have delivers := delivers_of_planColumn compiler planned
  exact ⟨earlier, plan, ⟨later, isPlans⟩, fun make made => absurd made (notScalar make),
    ordinal_of_planColumn planned, delivers.column_eq,
    fun record => (extracts record).trans (delivers.extract_eq record)⟩

/-- The binder of a schema has a plan for every column that is bound to a member. -/
theorem exists_hasPlan
    {compiler : Compiler}
    {typeName : String}
    {target : TargetDescriptor τ}
    {schema : RowSchema}
    {binder : Binder τ}
    {ordinal : Nat}
    {column : ColumnDescriptor}
    {member : MemberDescriptor τ}
    (compiles : compiler.build typeName target schema = .ok binder)
    (binds : Binds target schema ordinal column member) :
    ∃ earlier plan, compiler.HasPlan binder earlier plan ordinal column member := by
  obtain ⟨isColumn, isBound⟩ := binds
  unfold build at compiles
  cases made : target.factory with
  | members allocated =>
      simp only [made] at compiles isBound
      obtain ⟨position, isMember⟩ := isBound
      obtain ⟨⟨plans, setters⟩, planned, compiles⟩ := Outcome.bind_eq_ok_iff.mp compiles
      cases compiles
      obtain ⟨plan, isPlan, sink, plannedColumn⟩ :=
        (planned_of_planMembers planned).1.exists_planColumn
          (TargetDescriptor.mem_boundColumns isColumn isMember)
      exact exists_hasPlan_of_mem nofun (fun _ => rfl) isPlan plannedColumn
  | positional construct =>
      simp only [made] at compiles isBound
      obtain ⟨position, isMember⟩ := isBound
      obtain ⟨plans, planned, compiles⟩ := Outcome.bind_eq_ok_iff.mp compiles
      cases compiles
      obtain ⟨plan, isPlan, sink, plannedColumn⟩ :=
        (planned_of_planSlots 0 planned).exists_planColumn
          (TargetDescriptor.mem_boundColumns isColumn isMember)
      exact exists_hasPlan_of_mem nofun (fun _ => rfl) isPlan plannedColumn
  | scalar make =>
      simp only [made] at compiles isBound
      obtain ⟨rfl, isMember⟩ := isBound
      obtain ⟨plans, planned, compiles⟩ := Outcome.bind_eq_ok_iff.mp compiles
      obtain ⟨firstColumn, columns, firstMember, members, plan, isFirst, isFirstMember,
        plannedColumn, rfl⟩ := planScalar_eq_ok planned
      cases compiles
      rw [isFirst] at isColumn
      rw [isFirstMember] at isMember
      cases isColumn
      cases isMember
      have delivers := delivers_of_planColumn compiler plannedColumn
      exact ⟨[], plan, ⟨[], rfl⟩, fun _ _ => rfl, ordinal_of_planColumn plannedColumn,
        delivers.column_eq, delivers.extract_eq⟩

theorem HasPlan.failsAt
    {compiler : Compiler}
    {binder : Binder τ}
    {earlier : List ColumnPlan}
    {plan : ColumnPlan}
    {ordinal : Nat}
    {column : ColumnDescriptor}
    {member : MemberDescriptor τ}
    {record : RowRecord}
    {error : BindError}
    (hasPlan : compiler.HasPlan binder earlier plan ordinal column member)
    (fails : compiler.cellValue record ordinal column member = .error error) :
    binder.FailsAt record earlier plan error := by
  obtain ⟨later, isPlans⟩ := hasPlan.exists_later
  exact Binder.failsAt_of_extract isPlans hasPlan.isScalar
    ((hasPlan.extract_eq record).trans fails)

/-- A scalar target is made of what the first cell is worth to its member. -/
theorem HasPlan.bind_eq_of_scalar
    {compiler : Compiler}
    {binder : Binder τ}
    {earlier : List ColumnPlan}
    {plan : ColumnPlan}
    {ordinal : Nat}
    {column : ColumnDescriptor}
    {member : MemberDescriptor τ}
    {make : Value → Except String τ}
    (hasPlan : compiler.HasPlan binder earlier plan ordinal column member)
    (made : binder.construction = .scalar make)
    (record : RowRecord) :
    binder.bind record = (do
      let value ← compiler.cellValue record ordinal column member
      (make value).mapError binder.constructError) := by
  obtain ⟨later, isPlans⟩ := hasPlan.exists_later
  rw [hasPlan.isScalar make made, List.nil_append] at isPlans
  unfold Binder.bind
  rw [made, isPlans]
  dsimp only
  rw [hasPlan.extract_eq]

end Compiler
end RowBinding
