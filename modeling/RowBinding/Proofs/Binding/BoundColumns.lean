import Mathlib.Data.List.Forall2
import RowBinding.Proofs.Binding.RowInterpretation

/-!
# Bound columns

The columns of a schema that have a member in a target are planned one by one,
in the order of the schema, and no other column is. The plan of a column keeps
the ordinal and the name of the column. The sinks of plans for assigned members
count the plans; those of plans for slots are the positions of the members.
-/

namespace RowBinding

variable {τ : Type}

/-- A column of a schema with the member that its name is bound to. -/
structure BoundColumn (τ : Type) where
  ordinal : Nat
  column : ColumnDescriptor
  position : Nat
  member : MemberDescriptor τ

namespace TargetDescriptor

/-- The columns that have a member, the first of them all at some ordinal. -/
def boundColumns
    (target : TargetDescriptor τ)
    (ordinal : Nat)
    (columns : List ColumnDescriptor) : List (BoundColumn τ) :=
  (columns.zipIdx ordinal).filterMap fun (column, ordinal) =>
    (target.findMember? column.name).map fun (position, member) =>
      ⟨ordinal, column, position, member⟩

variable
  {target : TargetDescriptor τ}
  {column : ColumnDescriptor}
  {bound : BoundColumn τ}

theorem boundColumns_cons_of_unmatched
    (unmatched : target.findMember? column.name = none)
    (ordinal : Nat)
    (columns : List ColumnDescriptor) :
    target.boundColumns ordinal (column :: columns) =
      target.boundColumns (ordinal + 1) columns := by
  simp [boundColumns, List.zipIdx_cons, unmatched]

theorem boundColumns_cons_of_matched
    {position : Nat}
    {member : MemberDescriptor τ}
    (matched : target.findMember? column.name = some (position, member))
    (ordinal : Nat)
    (columns : List ColumnDescriptor) :
    target.boundColumns ordinal (column :: columns) =
      ⟨ordinal, column, position, member⟩ :: target.boundColumns (ordinal + 1) columns := by
  simp [boundColumns, List.zipIdx_cons, matched]

/-- A bound column is the one of its ordinal, with the member of its name. -/
theorem mem_boundColumns_iff {columns : List ColumnDescriptor} :
    bound ∈ target.boundColumns 0 columns ↔
      columns[bound.ordinal]? = some bound.column ∧
        target.findMember? bound.column.name = some (bound.position, bound.member) := by
  simp only [boundColumns, List.mem_filterMap, Option.map_eq_some_iff, Prod.exists,
    List.mk_mem_zipIdx_iff_getElem?]
  constructor
  · rintro ⟨column, ordinal, isColumn, position, member, matched, rfl⟩
    exact ⟨isColumn, matched⟩
  · rintro ⟨isColumn, matched⟩
    exact ⟨_, _, isColumn, _, _, matched, rfl⟩

theorem mem_boundColumns
    {columns : List ColumnDescriptor}
    {ordinal position : Nat}
    {member : MemberDescriptor τ}
    (isColumn : columns[ordinal]? = some column)
    (matched : target.findMember? column.name = some (position, member)) :
    ⟨ordinal, column, position, member⟩ ∈ target.boundColumns 0 columns :=
  mem_boundColumns_iff.mpr ⟨isColumn, matched⟩

/-- The ordinals of bound columns increase. -/
theorem pairwise_boundColumns (ordinal : Nat) (columns : List ColumnDescriptor) :
    (target.boundColumns ordinal columns).Pairwise (·.ordinal < ·.ordinal) := by
  have increasing : (columns.zipIdx ordinal).Pairwise (·.2 < ·.2) := by
    rw [← List.pairwise_map, List.zipIdx_map_snd]
    exact List.pairwise_lt_range'
  rw [boundColumns, List.pairwise_filterMap]
  refine increasing.imp fun isLess first isFirst second isSecond => ?_
  obtain ⟨_, _, rfl⟩ := Option.map_eq_some_iff.mp isFirst
  obtain ⟨_, _, rfl⟩ := Option.map_eq_some_iff.mp isSecond
  exact isLess

end TargetDescriptor

namespace Compiler

variable
  {target : TargetDescriptor τ}
  {column : ColumnDescriptor}
  {member : MemberDescriptor τ}
  {columns : List ColumnDescriptor}

theorem ordinal_of_planColumn
    {ordinal : Nat}
    {sink : Sink}
    {plan : ColumnPlan}
    (planned : planColumn ordinal column member sink = .ok plan) :
    plan.ordinal = ordinal := by
  unfold planColumn at planned
  dsimp only at planned
  split at planned
  · cases planned
  · split at planned
    · split at planned <;> cases planned
      rfl
    · split at planned <;> cases planned
      rfl

/-- Some bound columns have been planned, from a number on, each with its sink. -/
def Planned
    (sinkOf : Nat → BoundColumn τ → Sink)
    (number : Nat)
    (bounds : List (BoundColumn τ))
    (plans : List ColumnPlan) : Prop :=
  List.Forall₂
    (fun numbered plan =>
      planColumn numbered.1.ordinal numbered.1.column numbered.1.member
        (sinkOf numbered.2 numbered.1) = .ok plan)
    (bounds.zipIdx number) plans

namespace Planned

variable
  {sinkOf : Nat → BoundColumn τ → Sink}
  {number : Nat}
  {bound : BoundColumn τ}
  {bounds : List (BoundColumn τ)}
  {plan : ColumnPlan}
  {plans : List ColumnPlan}

theorem nil (sinkOf : Nat → BoundColumn τ → Sink) (number : Nat) :
    Planned sinkOf number [] [] :=
  List.Forall₂.nil

theorem cons
    (plannedFirst : planColumn bound.ordinal bound.column bound.member (sinkOf number bound) =
      .ok plan)
    (plannedRest : Planned sinkOf (number + 1) bounds plans) :
    Planned sinkOf number (bound :: bounds) (plan :: plans) :=
  List.Forall₂.cons plannedFirst plannedRest

theorem length_eq (planned : Planned sinkOf number bounds plans) :
    bounds.length = plans.length := by
  simpa using List.Forall₂.length_eq planned

/-- A plan keeps the ordinal of its column. -/
theorem map_ordinal_eq (planned : Planned sinkOf number bounds plans) :
    plans.map (·.ordinal) = bounds.map (·.ordinal) := by
  have same : List.Forall₂ (· = ·)
      ((bounds.zipIdx number).map (·.1.ordinal)) (plans.map (·.ordinal)) := by
    rw [List.forall₂_map_left_iff, List.forall₂_map_right_iff]
    exact planned.imp fun _ _ plannedColumn => (ordinal_of_planColumn plannedColumn).symm
  rw [List.forall₂_eq_eq_eq] at same
  calc
    plans.map (·.ordinal) = (bounds.zipIdx number).map (·.1.ordinal) := same.symm
    _ = ((bounds.zipIdx number).map Prod.fst).map (·.ordinal) := List.map_map.symm
    _ = bounds.map (·.ordinal) := by rw [List.zipIdx_map_fst]

/-- The plans of a list are those of the bound columns at their positions. -/
theorem planColumn_of_getElem?
    {index : Nat}
    (planned : Planned sinkOf number bounds plans)
    (isPlan : plans[index]? = some plan) :
    ∃ bound, bounds[index]? = some bound ∧
      planColumn bound.ordinal bound.column bound.member (sinkOf (number + index) bound) =
        .ok plan := by
  obtain ⟨inside, rfl⟩ := List.getElem?_eq_some_iff.mp isPlan
  have isBound : index < bounds.length := planned.length_eq ▸ inside
  have plannedColumn := List.Forall₂.get planned (by simpa using isBound) inside
  refine ⟨bounds[index], List.getElem?_eq_getElem isBound, ?_⟩
  simpa using plannedColumn

/-- Every bound column has a plan. -/
theorem exists_planColumn
    (planned : Planned sinkOf number bounds plans)
    (isBound : bound ∈ bounds) :
    ∃ plan ∈ plans, ∃ sink,
      planColumn bound.ordinal bound.column bound.member sink = .ok plan := by
  obtain ⟨index, isIndex⟩ := List.getElem?_of_mem isBound
  obtain ⟨inside, _⟩ := List.getElem?_eq_some_iff.mp isIndex
  rw [planned.length_eq] at inside
  obtain ⟨other, isOther, plannedColumn⟩ :=
    planned.planColumn_of_getElem? (List.getElem?_eq_getElem inside)
  obtain rfl : bound = other := Option.some.inj (isIndex.symm.trans isOther)
  exact ⟨_, List.getElem_mem inside, _, plannedColumn⟩

/-- The plan at a position is the one of a bound column, with the sink of the position. -/
theorem exists_bound
    {index : Nat}
    (planned : Planned sinkOf 0 (target.boundColumns 0 columns) plans)
    (isPlan : plans[index]? = some plan) :
    ∃ bound, (target.boundColumns 0 columns)[index]? = some bound ∧
      columns[bound.ordinal]? = some bound.column ∧
        target.findMember? bound.column.name = some (bound.position, bound.member) ∧
          planColumn bound.ordinal bound.column bound.member (sinkOf index bound) = .ok plan := by
  obtain ⟨bound, isBound, plannedColumn⟩ := planned.planColumn_of_getElem? isPlan
  obtain ⟨isColumn, isMember⟩ :=
    TargetDescriptor.mem_boundColumns_iff.mp (List.mem_of_getElem? isBound)
  rw [Nat.zero_add] at plannedColumn
  exact ⟨bound, isBound, isColumn, isMember, plannedColumn⟩

end Planned

/-- The plans for assigned members count the setters, which are those of the members. -/
theorem planned_of_planMembers :
    ∀ {ordinal setterCount : Nat} {plans : List ColumnPlan} {setters : List (Setter τ)},
      planMembers target ordinal setterCount columns = .ok (plans, setters) →
        Planned (fun number _ => .member number) setterCount
            (target.boundColumns ordinal columns) plans ∧
          (target.boundColumns ordinal columns).map (·.member.setter) = setters.map some := by
  induction columns with
  | nil =>
      intro ordinal setterCount plans setters planned
      cases planned
      exact ⟨.nil _ _, rfl⟩
  | cons column rest inductionHypothesis =>
      intro ordinal setterCount plans setters planned
      unfold planMembers at planned
      cases matched : target.findMember? column.name with
      | none =>
          simp only [matched] at planned
          rw [TargetDescriptor.boundColumns_cons_of_unmatched matched]
          exact inductionHypothesis planned
      | some placed =>
          obtain ⟨position, member⟩ := placed
          simp only [matched] at planned
          rw [TargetDescriptor.boundColumns_cons_of_matched matched]
          cases assignable : member.setter with
          | none => simp [assignable] at planned
          | some setter =>
              simp only [assignable] at planned
              obtain ⟨plan, plannedColumn, planned⟩ := Outcome.bind_eq_ok_iff.mp planned
              obtain ⟨⟨laterPlans, laterSetters⟩, plannedRest, planned⟩ :=
                Outcome.bind_eq_ok_iff.mp planned
              cases planned
              obtain ⟨isPlanned, areSetters⟩ := inductionHypothesis plannedRest
              refine ⟨.cons plannedColumn isPlanned, ?_⟩
              simp [assignable, areSetters]

/-- The plans for slots go to the slots of the members. -/
theorem planned_of_planSlots {config : BindingConfig} :
    ∀ {ordinal : Nat} {plans : List ColumnPlan} (number : Nat),
      planSlots config target ordinal columns = .ok plans →
        Planned (fun _ bound => .slot bound.position) number
          (target.boundColumns ordinal columns) plans := by
  induction columns with
  | nil =>
      intro ordinal plans number planned
      cases planned
      exact .nil _ _
  | cons column rest inductionHypothesis =>
      intro ordinal plans number planned
      unfold planSlots at planned
      cases matched : target.findMember? column.name with
      | none =>
          simp only [matched] at planned
          obtain ⟨_, _, plannedRest⟩ := Outcome.bind_eq_ok_iff.mp planned
          rw [TargetDescriptor.boundColumns_cons_of_unmatched matched]
          exact inductionHypothesis number plannedRest
      | some placed =>
          obtain ⟨position, member⟩ := placed
          simp only [matched] at planned
          obtain ⟨plan, plannedColumn, planned⟩ := Outcome.bind_eq_ok_iff.mp planned
          obtain ⟨laterPlans, plannedRest, planned⟩ := Outcome.bind_eq_ok_iff.mp planned
          cases planned
          rw [TargetDescriptor.boundColumns_cons_of_matched matched]
          exact .cons plannedColumn (inductionHypothesis (number + 1) plannedRest)

end Compiler
end RowBinding
