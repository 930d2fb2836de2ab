import RowBinding.Proofs.Binding.BoundColumns
import RowBinding.Proofs.Binding.DeliveredTypes

/-!
# Well-formed binders

Applying a binder passes silently over a value whose place is not there: a
setter or a slot whose number is too large, or a sink of another kind than the
construction. A scalar without a plan is made of a null.

The plans of a compiled binder follow the columns of its schema, and each of
them has a place of its own kind. So no row loses a value: a binder that stops
where it would pass over a value does the same to every row.
-/

namespace RowBinding

variable {τ : Type}

/-! ## Rows that lose no value -/

/-- Why a row ends without an object, if no value may get lost. -/
inductive Lapse
  /-- The row fails as it does where values may get lost. -/
  | failure (error : BindError)
  /-- The value of a column has no place to go to. -/
  | unplaced (column : String)
  /-- There is no value, or more than one, to make the object of. -/
  | unmade

namespace Binder

variable
  {binder : Binder τ}
  {record : RowRecord}
  {plans : List ColumnPlan}

/-- Assign the value of one column to its member, which has to be there. -/
def assignPlaced
    (binder : Binder τ)
    (setters : List (Setter τ))
    (record : RowRecord)
    (target : τ)
    (plan : ColumnPlan) : Except Lapse τ := do
  let value ← (binder.extract record plan).mapError .failure
  match plan.sink with
  | .member index =>
      match setters[index]? with
      | some setter => ((setter target value).mapError (.member plan.column)).mapError .failure
      | none => .error (.unplaced plan.column)
  | _ => .error (.unplaced plan.column)

/-- Put the value of one column into its slot, which has to be there. -/
def fillPlaced
    (binder : Binder τ)
    (record : RowRecord)
    (slots : List Value)
    (plan : ColumnPlan) : Except Lapse (List Value) := do
  let value ← (binder.extract record plan).mapError .failure
  match plan.sink with
  | .slot index =>
      if index < slots.length then return slots.set index value
      else .error (.unplaced plan.column)
  | _ => .error (.unplaced plan.column)

/-- Make an object from a row without losing a value. -/
def bindPlaced (binder : Binder τ) (record : RowRecord) : Except Lapse τ :=
  match binder.construction with
  | .members allocated setters =>
      binder.plans.foldlM (binder.assignPlaced setters record) allocated
  | .positional construct defaults => do
      let slots ← binder.plans.foldlM (binder.fillPlaced record) defaults
      ((construct slots).mapError binder.constructError).mapError .failure
  | .scalar make => do
      let value ←
        match binder.plans with
        | [plan] => (binder.extract record plan).mapError .failure
        | _ => .error .unmade
      ((make value).mapError binder.constructError).mapError .failure

/-! ## The places of plans -/

/-- Every plan has a place of the kind of the construction, which is the one of the target. -/
def Places
    (target : TargetDescriptor τ)
    (plans : List ColumnPlan) : Construction τ → Prop
  | .members allocated setters =>
      target.factory = .members allocated ∧ setters.length = plans.length ∧
        ∀ index plan, plans[index]? = some plan →
          plan.sink = .member index ∧ index < setters.length ∧
            ∃ position member, target.findMember? plan.column = some (position, member) ∧
              setters[index]? = member.setter
  | .positional construct defaults =>
      target.factory = .positional construct ∧ defaults.length = target.arity ∧
        ∀ plan ∈ plans, ∃ slot member,
          plan.sink = .slot slot ∧ slot < defaults.length ∧
            target.findMember? plan.column = some (slot, member)
  | .scalar make =>
      target.factory = .scalar make ∧
        ∃ plan, plans = [plan] ∧ plan.ordinal = 0 ∧ plan.sink = .scalar

/-- The plans of a binder follow the columns of a schema, each to a place of its own kind. -/
structure WellFormed
    (target : TargetDescriptor τ)
    (schema : RowSchema)
    (binder : Binder τ) : Prop where
  increasing : (binder.plans.map (·.ordinal)).Pairwise (· < ·)
  named : ∀ plan ∈ binder.plans, ∃ column,
    schema.columns[plan.ordinal]? = some column ∧ plan.column = column.name
  placed : Places target binder.plans binder.construction

/-- A value that has a setter is assigned as it is where values may get lost. -/
theorem assignPlaced_eq
    {setters : List (Setter τ)}
    {plan : ColumnPlan}
    {index : Nat}
    (isSink : plan.sink = .member index)
    (inside : index < setters.length)
    (object : τ) :
    binder.assignPlaced setters record object plan =
      (binder.assign setters record object plan).mapError .failure := by
  rw [assignPlaced, assign, isSink, Outcome.mapError_bind]
  simp only [List.getElem?_eq_getElem inside]

/-- A value that has a slot is put there as it is where values may get lost. -/
theorem fillPlaced_eq
    {slots : List Value}
    {plan : ColumnPlan}
    {index : Nat}
    (isSink : plan.sink = .slot index)
    (inside : index < slots.length) :
    binder.fillPlaced record slots plan =
      (binder.fill record slots plan).mapError .failure := by
  rw [fillPlaced, fill, isSink, Outcome.mapError_bind]
  simp only [if_pos inside]
  rfl

theorem length_of_fill
    {slots filled : List Value}
    {plan : ColumnPlan}
    (fills : binder.fill record slots plan = .ok filled) :
    filled.length = slots.length := by
  obtain ⟨value, _, isFilled⟩ := Outcome.bind_eq_ok_iff.mp fills
  cases isSink : plan.sink <;> rw [isSink] at isFilled <;> cases isFilled <;> simp

/-- No row of a well-formed binder loses a value. -/
theorem WellFormed.bindPlaced_eq
    {target : TargetDescriptor τ}
    {schema : RowSchema}
    (wellFormed : binder.WellFormed target schema)
    (record : RowRecord) :
    binder.bindPlaced record = (binder.bind record).mapError .failure := by
  have placed := wellFormed.placed
  unfold bindPlaced bind
  cases isConstruction : binder.construction with
  | members allocated setters =>
      rw [isConstruction] at placed
      obtain ⟨_, _, placed⟩ := placed
      refine Outcome.foldlM_mapError (fun _ => True) (fun object plan isPlan _ => ?_) trivial
      obtain ⟨index, isIndex⟩ := List.getElem?_of_mem isPlan
      obtain ⟨isSink, inside, _⟩ := placed index plan isIndex
      exact ⟨assignPlaced_eq isSink inside object, fun _ _ => trivial⟩
  | positional construct defaults =>
      rw [isConstruction] at placed
      obtain ⟨_, _, placed⟩ := placed
      dsimp only
      rw [Outcome.mapError_bind]
      congr 1
      refine Outcome.foldlM_mapError (·.length = defaults.length)
        (fun slots plan isPlan sameLength => ?_) rfl
      obtain ⟨slot, member, isSink, inside, _⟩ := placed plan isPlan
      exact ⟨fillPlaced_eq isSink (sameLength ▸ inside),
        fun filled fills => (length_of_fill fills).trans sameLength⟩
  | scalar make =>
      rw [isConstruction] at placed
      obtain ⟨_, plan, isPlans, _⟩ := placed
      rw [isPlans]
      dsimp only
      rw [Outcome.mapError_bind]

end Binder

/-! ## Compiled binders -/

namespace Compiler

variable
  {compiler : Compiler}
  {typeName : String}
  {target : TargetDescriptor τ}
  {schema : RowSchema}
  {binder : Binder τ}

section Planned

variable
  {columns : List ColumnDescriptor}
  {sinkOf : Nat → BoundColumn τ → Sink}
  {number : Nat}
  {plans : List ColumnPlan}

/-- A plan reads the column of its ordinal, for the member that its column is bound to. -/
theorem Planned.exists_placed
    {index : Nat}
    {plan : ColumnPlan}
    (planned : Planned sinkOf 0 (target.boundColumns 0 columns) plans)
    (isPlan : plans[index]? = some plan) :
    ∃ bound, (target.boundColumns 0 columns)[index]? = some bound ∧
      columns[plan.ordinal]? = some bound.column ∧ plan.column = bound.column.name ∧
        target.findMember? plan.column = some (bound.position, bound.member) ∧
          plan.sink = sinkOf index bound := by
  obtain ⟨bound, isBound, isColumn, isMember, plannedColumn⟩ := planned.exists_bound isPlan
  have delivers := delivers_of_planColumn {} plannedColumn
  refine ⟨bound, isBound, ?_, delivers.column_eq, ?_, delivers.sink_eq⟩
  · rw [ordinal_of_planColumn plannedColumn, isColumn]
  · rw [delivers.column_eq, isMember]

theorem Planned.wellFormed
    (planned : Planned sinkOf 0 (target.boundColumns 0 schema.columns) binder.plans)
    (placed : Binder.Places target binder.plans binder.construction) :
    binder.WellFormed target schema where
  increasing := by
    rw [planned.map_ordinal_eq, List.pairwise_map]
    exact target.pairwise_boundColumns 0 schema.columns
  named := by
    intro plan isPlan
    obtain ⟨index, isIndex⟩ := List.getElem?_of_mem isPlan
    obtain ⟨bound, _, isColumn, isNamed, _⟩ := planned.exists_placed isIndex
    exact ⟨bound.column, isColumn, isNamed⟩
  placed := placed

/-- The plans for assigned members count on with the setters. -/
theorem places_of_planMembers
    {allocated : τ}
    {setters : List (Setter τ)}
    (made : target.factory = .members allocated)
    (planned : planMembers target 0 0 columns = .ok (plans, setters)) :
    Binder.Places target plans (.members allocated setters) := by
  obtain ⟨isPlanned, areSetters⟩ := planned_of_planMembers planned
  have sameLength : setters.length = plans.length := by
    rw [← isPlanned.length_eq]
    simpa using (congrArg List.length areSetters).symm
  refine ⟨made, sameLength, fun index plan isPlan => ?_⟩
  obtain ⟨bound, isBound, _, _, isMember, isSink⟩ := isPlanned.exists_placed isPlan
  obtain ⟨inside, _⟩ := List.getElem?_eq_some_iff.mp isPlan
  refine ⟨isSink, sameLength ▸ inside, bound.position, bound.member, isMember, ?_⟩
  have isSetter := congrArg (·[index]?) areSetters
  simp only [List.getElem?_map, isBound, Option.map_some] at isSetter
  rw [List.getElem?_eq_getElem (sameLength ▸ inside)] at isSetter ⊢
  exact (Option.some.inj isSetter).symm

/-- The plans for slots go to the slots of the members, which are all there. -/
theorem places_of_planSlots
    {config : BindingConfig}
    {construct : List Value → Except String τ}
    (made : target.factory = .positional construct)
    (planned : planSlots config target 0 columns = .ok plans) :
    Binder.Places target plans
      (.positional construct (target.members.map MemberDescriptor.zeroValue)) := by
  refine ⟨made, List.length_map _, fun plan isPlan => ?_⟩
  obtain ⟨index, isIndex⟩ := List.getElem?_of_mem isPlan
  obtain ⟨bound, _, _, _, isMember, isSink⟩ :=
    (planned_of_planSlots 0 planned).exists_placed isIndex
  obtain ⟨inside, _⟩ := List.getElem?_eq_some_iff.mp (getElem?_of_findMember? isMember)
  refine ⟨bound.position, bound.member, isSink, ?_, isMember⟩
  rw [List.length_map]
  exact inside

end Planned

/-- A scalar has one plan, on the first column. -/
theorem wellFormed_of_planScalar
    {make : Value → Except String τ}
    (made : target.factory = .scalar make)
    (isConstruction : binder.construction = .scalar make)
    (planned : planScalar target schema = .ok binder.plans) :
    binder.WellFormed target schema := by
  obtain ⟨column, columns, member, members, plan, isColumns, _, plannedColumn, isPlans⟩ :=
    planScalar_eq_ok planned
  have isOrdinal := ordinal_of_planColumn plannedColumn
  have delivers := delivers_of_planColumn {} plannedColumn
  refine ⟨?_, ?_, ?_⟩
  · simp [isPlans]
  · simp [isPlans, isOrdinal, isColumns, delivers.column_eq]
  · rw [isConstruction]
    exact ⟨made, plan, isPlans, isOrdinal, delivers.sink_eq⟩

/--
What the compiler builds is well-formed, and so no row loses a value.

The plans follow the columns of the schema. Those for members count the setters, those for
slots keep to the slots of the target, and a scalar has one plan, for the first column.
-/
theorem wellFormed_of_build (compiles : compiler.build typeName target schema = .ok binder) :
    binder.WellFormed target schema ∧
      ∀ record, binder.bindPlaced record = (binder.bind record).mapError .failure := by
  have wellFormed : binder.WellFormed target schema := by
    unfold build at compiles
    cases made : target.factory with
    | members allocated =>
        simp only [made] at compiles
        obtain ⟨⟨plans, setters⟩, planned, compiles⟩ := Outcome.bind_eq_ok_iff.mp compiles
        cases compiles
        exact (planned_of_planMembers planned).1.wellFormed (places_of_planMembers made planned)
    | positional construct =>
        simp only [made] at compiles
        obtain ⟨plans, planned, compiles⟩ := Outcome.bind_eq_ok_iff.mp compiles
        cases compiles
        exact (planned_of_planSlots 0 planned).wellFormed (places_of_planSlots made planned)
    | scalar make =>
        simp only [made] at compiles
        obtain ⟨plans, planned, compiles⟩ := Outcome.bind_eq_ok_iff.mp compiles
        cases compiles
        exact wellFormed_of_planScalar made rfl planned
  exact ⟨wellFormed, wellFormed.bindPlaced_eq⟩

/-- Two plans, for the first and the last of three columns, assign the values of a row. -/
theorem wellFormed_labelledNumber :
    ∃ binder,
      ({} : Compiler).build "LabelledNumber" labelledNumber labelledNumberSchema = .ok binder ∧
        binder.WellFormed labelledNumber labelledNumberSchema ∧
          binder.plans.map (fun plan => (plan.ordinal, plan.sink)) =
              [(0, .member 0), (2, .member 1)] ∧
            binder.bindPlaced unlabelledRow =
              .ok (.integer ⟨.int64, 1, by decide⟩, .null) := by
  obtain ⟨binder, compiles, isPlans, isBound⟩ : ∃ binder,
      ({} : Compiler).build "LabelledNumber" labelledNumber labelledNumberSchema = .ok binder ∧
        binder.plans.map (fun plan => (plan.ordinal, plan.sink)) =
            [(0, .member 0), (2, .member 1)] ∧
          binder.bind unlabelledRow = .ok (.integer ⟨.int64, 1, by decide⟩, .null) :=
    ⟨_, rfl, rfl, rfl⟩
  obtain ⟨wellFormed, losesNothing⟩ := wellFormed_of_build compiles
  refine ⟨binder, compiles, wellFormed, isPlans, ?_⟩
  rw [losesNothing, isBound]
  rfl

/-- With a sink that is too large for it, the first value gets lost without an error. -/
example :
    ∃ binder,
      ({} : Compiler).build "LabelledNumber" labelledNumber labelledNumberSchema = .ok binder ∧
        let moved (plan : ColumnPlan) : ColumnPlan :=
          if plan.sink = .member 0 then { plan with sink := .member 2 } else plan
        let lossy := { binder with plans := binder.plans.map moved }
        lossy.bind unlabelledRow = .ok (.integer ⟨.int64, 1, by decide⟩, .null) ∧
          lossy.bindPlaced unlabelledRow = .error (.unplaced "LABEL") :=
  ⟨_, rfl, rfl, rfl⟩

end Compiler
end RowBinding
