import RowBinding.Proofs.Binding.Placeholders
import RowBinding.Proofs.Row.Cursor

/-!
# The order of columns

A target that is made by one constructor call takes its arguments from the
columns that lead to its slots, wherever these columns stand. Rearranging the
columns of a row with their cells changes nothing, as long as no two of them lead
to the same slot, and a slot that no column leads to keeps its zero value.

Columns that have no member and are no placeholders can be put in anywhere. This
also holds for targets whose members are assigned.
-/

namespace RowBinding

/-- A column with its cell in a row. -/
structure FilledColumn where
  column : ColumnDescriptor
  cell : Value

/-- The schema of a row. -/
def RowSchema.ofFilled (fields : List FilledColumn) : RowSchema where
  columns := fields.map FilledColumn.column

namespace RowRecord

/-- A row holds the cells of some columns from an ordinal on. -/
def HoldsFrom (record : RowRecord) : Nat → List FilledColumn → Prop
  | _, [] => True
  | ordinal, field :: rest =>
      record.Holds ordinal field.cell ∧ record.HoldsFrom (ordinal + 1) rest

/-- A row holds one cell for each of its columns. -/
def HoldsAll (record : RowRecord) (fields : List FilledColumn) : Prop :=
  record.HoldsFrom 0 fields

theorem holds_ofCells
    {cells : List Value}
    {ordinal : Nat}
    {cell : Value}
    (isCell : cells[ordinal]? = some cell) :
    (ofCells cells).Holds ordinal cell := by
  constructor
  · simp only [ofCells, isCell]
    rfl
  · simp only [ofCells, isCell]

theorem holdsFrom_ofCells_append (fields : List FilledColumn) :
    ∀ earlier : List Value,
      (ofCells (earlier ++ fields.map FilledColumn.cell)).HoldsFrom earlier.length fields := by
  induction fields with
  | nil => exact fun _ => trivial
  | cons field rest inductionHypothesis =>
      intro earlier
      refine ⟨holds_ofCells (by simp), ?_⟩
      have isRest := inductionHypothesis (earlier ++ [field.cell])
      rwa [List.append_assoc, List.length_append] at isRest

/-- The row of the cells of some columns. -/
def ofFilled (fields : List FilledColumn) : RowRecord :=
  ofCells (fields.map FilledColumn.cell)

theorem holdsAll_ofFilled (fields : List FilledColumn) : (ofFilled fields).HoldsAll fields :=
  holdsFrom_ofCells_append fields []

end RowRecord

/-! ## Rearranged and extended lists -/

/-- A list has more elements than another one, all of one kind. -/
inductive Extends {α : Type} (idle : α → Prop) : List α → List α → Prop
  | nil : Extends idle [] []
  | keep (element : α) {elements extended : List α} :
      Extends idle elements extended → Extends idle (element :: elements) (element :: extended)
  | insert {element : α} (isIdle : idle element) {elements extended : List α} :
      Extends idle elements extended → Extends idle elements (element :: extended)

section Folds

variable
  {α σ ε : Type}
  {step : σ → α → Except ε σ}
  {idle : α → Prop}
  {elements others : List α}

/-- Elements that leave every state as it is can be put in anywhere. -/
theorem Extends.foldlM_eq
    (extended : Extends idle elements others)
    (skips : ∀ element, idle element → ∀ state, step state element = .ok state) :
    ∀ start, others.foldlM step start = elements.foldlM step start := by
  induction extended with
  | nil => exact fun _ => rfl
  | keep element _ inductionHypothesis =>
      intro start
      rw [List.foldlM_cons, List.foldlM_cons]
      exact congrArg _ (funext inductionHypothesis)
  | insert isIdle _ inductionHypothesis =>
      intro start
      rw [List.foldlM_cons, skips _ isIdle, Outcome.ok_bind, inductionHypothesis]

theorem Extends.findSome?_eq
    {found : α → Option ε}
    (extended : Extends idle elements others)
    (passes : ∀ element, idle element → found element = none) :
    others.findSome? found = elements.findSome? found := by
  induction extended with
  | nil => rfl
  | keep element _ inductionHypothesis =>
      rw [List.findSome?_cons, List.findSome?_cons, inductionHypothesis]
  | insert isIdle _ inductionHypothesis =>
      rw [List.findSome?_cons, passes _ isIdle, inductionHypothesis]

/-- Steps that commute where they succeed can be taken in any order. -/
theorem toOption_foldlM_eq_of_perm
    (apart : α → α → Prop)
    (symmetric : ∀ {first second}, apart first second → apart second first)
    (commutes : ∀ first second, apart first second → ∀ state,
      (step state first >>= (step · second)).toOption =
        (step state second >>= (step · first)).toOption)
    (rearranged : elements.Perm others) :
    elements.Pairwise apart → ∀ start,
      (elements.foldlM step start).toOption = (others.foldlM step start).toOption := by
  induction rearranged with
  | nil => exact fun _ _ => rfl
  | cons element _ inductionHypothesis =>
      intro areApart start
      rw [List.foldlM_cons, List.foldlM_cons, Outcome.toOption_bind, Outcome.toOption_bind]
      exact congrArg _ (funext (inductionHypothesis areApart.of_cons))
  | swap first second rest =>
      intro areApart start
      have isApart : apart second first :=
        List.rel_of_pairwise_cons areApart List.mem_cons_self
      simp only [List.foldlM_cons]
      rw [← bind_assoc, ← bind_assoc, Outcome.toOption_bind, commutes _ _ isApart,
        ← Outcome.toOption_bind]
  | trans toMiddle _ firstHypothesis secondHypothesis =>
      intro areApart start
      rw [firstHypothesis areApart, secondHypothesis (toMiddle.pairwise areApart symmetric)]

end Folds

/-! ## Cells in place of a record -/

variable {τ : Type}

namespace Compiler

variable
  {compiler : Compiler}
  {target : TargetDescriptor τ}
  {record : RowRecord}
  {fields : List FilledColumn}

/-- The value that a column with its cell delivers to a member. -/
def filledValue
    (compiler : Compiler)
    (field : FilledColumn)
    (member : MemberDescriptor τ) : Except BindError Value :=
  if field.column.isNullable && field.cell.isNull then .ok member.zeroValue
  else compiler.readCell field.column member field.cell

theorem cellValue_eq_filledValue
    {field : FilledColumn}
    {ordinal : Nat}
    (holds : record.Holds ordinal field.cell)
    (member : MemberDescriptor τ) :
    compiler.cellValue record ordinal field.column member = compiler.filledValue field member := by
  rw [cellValue, filledValue, holds.isNull, holds.value]
  cases field.column.isNullable with
  | false => rfl
  | true => cases field.cell.isNull <;> rfl

/-- Put a cell into the argument that its column leads to. -/
def fillField
    (compiler : Compiler)
    (target : TargetDescriptor τ)
    (arguments : List Value)
    (field : FilledColumn) : Except BindError (List Value) :=
  match target.findMember? field.column.name with
  | none => .ok arguments
  | some (position, member) =>
      (compiler.filledValue field member).map (arguments.set position)

/-- Assign a cell to the member that its column leads to. -/
def assignField
    (compiler : Compiler)
    (target : TargetDescriptor τ)
    (object : τ)
    (field : FilledColumn) : Except BindError τ :=
  match target.findMember? field.column.name with
  | none => .ok object
  | some (_, member) => do
      let value ← compiler.filledValue field member
      match member.setter with
      | none => .error (.missingSetter field.column.name member.name)
      | some setter => (setter object value).mapError (.member field.column.name)

theorem fillCells_eq_foldlM :
    ∀ {ordinal : Nat} {arguments : List Value},
      record.HoldsFrom ordinal fields →
        compiler.fillCells target record ordinal arguments (fields.map FilledColumn.column) =
          fields.foldlM (compiler.fillField target) arguments := by
  induction fields with
  | nil => exact fun _ => rfl
  | cons field rest inductionHypothesis =>
      rintro ordinal arguments ⟨holds, holdRest⟩
      rw [List.map_cons, fillCells, List.foldlM_cons, fillField]
      cases target.findMember? field.column.name with
      | none => exact inductionHypothesis holdRest
      | some placed =>
          dsimp only
          rw [cellValue_eq_filledValue holds]
          cases compiler.filledValue field placed.2 with
          | error error => rfl
          | ok value => exact inductionHypothesis holdRest

theorem assignCells_eq_foldlM :
    ∀ {ordinal : Nat} {object : τ},
      record.HoldsFrom ordinal fields →
        compiler.assignCells target record ordinal object (fields.map FilledColumn.column) =
          fields.foldlM (compiler.assignField target) object := by
  induction fields with
  | nil => exact fun _ => rfl
  | cons field rest inductionHypothesis =>
      rintro ordinal object ⟨holds, holdRest⟩
      rw [List.map_cons, assignCells, List.foldlM_cons, assignField]
      cases target.findMember? field.column.name with
      | none => exact inductionHypothesis holdRest
      | some placed =>
          dsimp only
          rw [cellValue_eq_filledValue holds]
          cases compiler.filledValue field placed.2 with
          | error error => rfl
          | ok value =>
              cases placed.2.setter with
              | none => rfl
              | some setter =>
                  rw [Outcome.ok_bind, Outcome.ok_bind]
                  exact congrArg _ (funext fun assigned => inductionHypothesis holdRest)

end Compiler

/-! ## Where columns lead to -/

namespace TargetDescriptor

/-- The position of the member that a column leads to. -/
def reached? (target : TargetDescriptor τ) (column : ColumnDescriptor) : Option Nat :=
  (target.findMember? column.name).map Prod.fst

/-- Two columns do not lead to the same member. -/
def KeepsApart (target : TargetDescriptor τ) (first second : FilledColumn) : Prop :=
  ∀ position, target.reached? first.column = some position →
    target.reached? second.column ≠ some position

theorem KeepsApart.symm
    {target : TargetDescriptor τ}
    {first second : FilledColumn}
    (isApart : target.KeepsApart first second) :
    target.KeepsApart second first :=
  fun position isSecond isFirst => isApart position isFirst isSecond

theorem reached?_of_findMember?
    {target : TargetDescriptor τ}
    {column : ColumnDescriptor}
    {placed : Nat × MemberDescriptor τ}
    (isMember : target.findMember? column.name = some placed) :
    target.reached? column = some placed.1 := by
  rw [reached?, isMember]
  rfl

end TargetDescriptor

namespace Compiler

variable
  {compiler : Compiler}
  {target : TargetDescriptor τ}
  {record : RowRecord}
  {columns : List ColumnDescriptor}

section Field

variable
  {field : FilledColumn}
  {arguments : List Value}

theorem fillField_of_eq_none (unmatched : target.findMember? field.column.name = none) :
    compiler.fillField target arguments field = .ok arguments := by
  rw [fillField, unmatched]

theorem fillField_of_eq_some
    {placed : Nat × MemberDescriptor τ}
    (isMember : target.findMember? field.column.name = some placed) :
    compiler.fillField target arguments field =
      (compiler.filledValue field placed.2).map (arguments.set placed.1) := by
  rw [fillField, isMember]

end Field

/-- Two cells can be put into different slots one after the other in both ways. -/
theorem fillField_comm
    {first second : FilledColumn}
    (isApart : target.KeepsApart first second)
    (arguments : List Value) :
    (compiler.fillField target arguments first >>= (compiler.fillField target · second)).toOption =
      (compiler.fillField target arguments second >>=
        (compiler.fillField target · first)).toOption := by
  cases isFirst : target.findMember? first.column.name with
  | none =>
      simp only [fillField_of_eq_none isFirst, Outcome.ok_bind]
      cases compiler.fillField target arguments second <;> rfl
  | some placed =>
      cases isSecond : target.findMember? second.column.name with
      | none =>
          simp only [fillField_of_eq_none isSecond, Outcome.ok_bind]
          cases compiler.fillField target arguments first <;> rfl
      | some other =>
          have notSame : placed.1 ≠ other.1 := fun same =>
            isApart placed.1 (TargetDescriptor.reached?_of_findMember? isFirst)
              (same ▸ TargetDescriptor.reached?_of_findMember? isSecond)
          simp only [fillField_of_eq_some isFirst, fillField_of_eq_some isSecond]
          cases compiler.filledValue first placed.2 with
          | error error => cases compiler.filledValue second other.2 <;> rfl
          | ok value =>
              cases compiler.filledValue second other.2 with
              | error error => rfl
              | ok otherValue => exact congrArg some (List.set_comm value otherValue notSame)

/-- Filling in cells keeps the number of arguments, and the arguments of slots that no column
leads to. -/
theorem length_and_getElem?_of_fillCells
    {result : List Value} :
    ∀ {ordinal : Nat} {arguments : List Value},
      compiler.fillCells target record ordinal arguments columns = .ok result →
        result.length = arguments.length ∧
          ∀ position, (∀ column ∈ columns, target.reached? column ≠ some position) →
            result[position]? = arguments[position]? := by
  induction columns with
  | nil =>
      intro ordinal arguments fills
      cases fills
      exact ⟨rfl, fun _ _ => rfl⟩
  | cons column rest inductionHypothesis =>
      intro ordinal arguments fills
      unfold fillCells at fills
      cases isMember : target.findMember? column.name with
      | none =>
          rw [isMember] at fills
          obtain ⟨sameLength, kept⟩ := inductionHypothesis fills
          exact ⟨sameLength, fun position unreached =>
            kept position fun other isLater => unreached other (List.mem_cons_of_mem _ isLater)⟩
      | some placed =>
          rw [isMember] at fills
          obtain ⟨value, _, fillsRest⟩ := Outcome.bind_eq_ok_iff.mp fills
          obtain ⟨sameLength, kept⟩ := inductionHypothesis fillsRest
          refine ⟨sameLength.trans List.length_set, fun position unreached => ?_⟩
          have notHere : placed.1 ≠ position := by
            rintro rfl
            exact unreached column List.mem_cons_self
              (TargetDescriptor.reached?_of_findMember? isMember)
          rw [kept position fun other isLater => unreached other (List.mem_cons_of_mem _ isLater),
            List.getElem?_set_ne notHere]

end Compiler

/-! ## Arguments of a constructor -/

/-- A binder calls its constructor with some arguments on a row. -/
def Binder.Passes (binder : Binder τ) (record : RowRecord) (arguments : List Value) : Prop :=
  ∃ construct defaults,
    binder.construction = .positional construct defaults ∧
      binder.arguments record defaults = .ok arguments

/-- Two binders pass the same arguments on two rows and make the same object of them, or
none of the two succeeds. -/
structure Binder.SameOutcome
    (binder other : Binder τ)
    (record otherRecord : RowRecord) : Prop where
  passes_iff : ∀ arguments, binder.Passes record arguments ↔ other.Passes otherRecord arguments
  bind_eq : (binder.bind record).toOption = (other.bind otherRecord).toOption

namespace Compiler

section Positional

variable
  {compiler : Compiler}
  {target : TargetDescriptor τ}
  {construct : List Value → Except String τ}
  {typeName : String}
  {schema : RowSchema}
  {binder : Binder τ}

/-- The arguments that stand for a row without columns. -/
def zeroArguments (target : TargetDescriptor τ) : List Value :=
  target.members.map MemberDescriptor.zeroValue

/-- A compiled binder calls the constructor of a target with what the cells of a row fill in. -/
structure FillsSlots
    (compiler : Compiler)
    (target : TargetDescriptor τ)
    (construct : List Value → Except String τ)
    (schema : RowSchema)
    (binder : Binder τ) : Prop where
  construction_eq : binder.construction = .positional construct (zeroArguments target)
  arguments_eq : ∀ record, binder.arguments record (zeroArguments target) =
    compiler.fillCells target record 0 (zeroArguments target) schema.columns
  bind_eq : ∀ record, binder.bind record = (do
    let arguments ← compiler.fillCells target record 0 (zeroArguments target) schema.columns
    (construct arguments).mapError (.construct target.identity))

theorem fillsSlots_of_build
    (made : target.factory = .positional construct)
    (compiles : compiler.build typeName target schema = .ok binder) :
    compiler.FillsSlots target construct schema binder := by
  have bind_eq := bind_eq_fillCells made compiles
  rw [build_eq_map_slotBinder made] at compiles
  obtain ⟨plans, planned, rfl⟩ := Outcome.map_eq_ok_iff.mp compiles
  refine ⟨rfl, fun record => ?_, bind_eq⟩
  change plans.foldlM (Binder.fill _ record) _ = _
  refine foldlM_fill_of_planSlots (fun plan => ?_) planned
  rfl

theorem FillsSlots.passes_iff
    (fillsSlots : compiler.FillsSlots target construct schema binder)
    {record : RowRecord}
    {arguments : List Value} :
    binder.Passes record arguments ↔
      compiler.fillCells target record 0 (zeroArguments target) schema.columns =
        .ok arguments := by
  rw [← fillsSlots.arguments_eq]
  constructor
  · rintro ⟨_, _, made, passes⟩
    rw [fillsSlots.construction_eq] at made
    cases made
    exact passes
  · exact fun passes => ⟨_, _, fillsSlots.construction_eq, passes⟩

/-- Binders that fill in the same arguments have the same outcome. -/
theorem FillsSlots.sameOutcome
    {otherSchema : RowSchema}
    {other : Binder τ}
    {record otherRecord : RowRecord}
    (fillsSlots : compiler.FillsSlots target construct schema binder)
    (otherFills : compiler.FillsSlots target construct otherSchema other)
    (same : (compiler.fillCells target record 0 (zeroArguments target) schema.columns).toOption =
      (compiler.fillCells target otherRecord 0 (zeroArguments target)
        otherSchema.columns).toOption) :
    binder.SameOutcome other record otherRecord where
  passes_iff arguments := by
    rw [fillsSlots.passes_iff, otherFills.passes_iff, ← Outcome.toOption_eq_some_iff, same,
      Outcome.toOption_eq_some_iff]
  bind_eq := by
    rw [fillsSlots.bind_eq, otherFills.bind_eq, Outcome.toOption_bind, same,
      ← Outcome.toOption_bind]

end Positional

/-! ## Rearranged and extended rows -/

section Rows

variable
  {compiler : Compiler}
  {target : TargetDescriptor τ}
  {fields others : List FilledColumn}
  {record otherRecord : RowRecord}
  {binder other : Binder τ}
  {typeName : String}

/-- A column has no member and is no placeholder. -/
def IsIdle (compiler : Compiler) (target : TargetDescriptor τ) (field : FilledColumn) : Prop :=
  target.findMember? field.column.name = none ∧
    compiler.config.placeholderSlot? field.column.name = none

/-- An idle column stops no compilation, whatever its type is. -/
theorem IsIdle.stop?_eq_none
    {field : FilledColumn}
    (isIdle : compiler.IsIdle target field) :
    compiler.stop? target field.column = none := by
  obtain ⟨unmatched, noPlaceholder⟩ := isIdle
  rw [stop?, unmatched]
  cases target.factory with
  | members allocated | scalar make => rfl
  | positional construct =>
      dsimp only
      rw [checkPlaceholder, noPlaceholder]
      rfl

theorem exists_build_iff
    (notScalar : ∀ make, target.factory ≠ .scalar make)
    (typeName : String)
    (schema : RowSchema) :
    (∃ binder, compiler.build typeName target schema = .ok binder) ↔
      ∀ column ∈ schema.columns, compiler.stop? target column = none := by
  rw [← List.findSome?_eq_none_iff, ← error?_build notScalar typeName schema,
    Outcome.error?_eq_none_iff]

/-- Whether a target can be compiled does not depend on the order of the columns. -/
theorem exists_build_iff_of_perm
    (notScalar : ∀ make, target.factory ≠ .scalar make)
    (typeName : String)
    (rearranged : fields.Perm others) :
    (∃ binder, compiler.build typeName target (.ofFilled fields) = .ok binder) ↔
      ∃ binder, compiler.build typeName target (.ofFilled others) = .ok binder := by
  have sameColumns := rearranged.map FilledColumn.column
  rw [exists_build_iff notScalar, exists_build_iff notScalar]
  exact forall_congr' fun column => imp_congr_left sameColumns.mem_iff

theorem sameOutcome_of_perm
    {construct : List Value → Except String τ}
    (made : target.factory = .positional construct)
    (rearranged : fields.Perm others)
    (areApart : fields.Pairwise target.KeepsApart)
    (compiles : compiler.build typeName target (.ofFilled fields) = .ok binder)
    (otherCompiles : compiler.build typeName target (.ofFilled others) = .ok other)
    (holds : record.HoldsAll fields)
    (otherHolds : otherRecord.HoldsAll others) :
    binder.SameOutcome other record otherRecord := by
  refine (fillsSlots_of_build made compiles).sameOutcome
    (fillsSlots_of_build made otherCompiles) ?_
  rw [RowSchema.ofFilled, RowSchema.ofFilled, fillCells_eq_foldlM holds,
    fillCells_eq_foldlM otherHolds]
  exact toOption_foldlM_eq_of_perm target.KeepsApart TargetDescriptor.KeepsApart.symm
    (fun _ _ isApart => fillField_comm isApart) rearranged areApart _

/-- A compilation fails with idle columns as it fails without them. -/
theorem error?_build_of_extends
    (notScalar : ∀ make, target.factory ≠ .scalar make)
    (typeName : String)
    (extended : Extends (compiler.IsIdle target) fields others) :
    Outcome.error? (compiler.build typeName target (.ofFilled others)) =
      Outcome.error? (compiler.build typeName target (.ofFilled fields)) := by
  rw [error?_build notScalar, error?_build notScalar, RowSchema.ofFilled, RowSchema.ofFilled,
    List.findSome?_map, List.findSome?_map]
  exact extended.findSome?_eq fun _ isIdle => isIdle.stop?_eq_none

/-- The cells of idle columns do not matter to the object that is made. -/
theorem bind_eq_of_extends
    (notScalar : ∀ make, target.factory ≠ .scalar make)
    (extended : Extends (compiler.IsIdle target) fields others)
    (compiles : compiler.build typeName target (.ofFilled fields) = .ok binder)
    (otherCompiles : compiler.build typeName target (.ofFilled others) = .ok other)
    (holds : record.HoldsAll fields)
    (otherHolds : otherRecord.HoldsAll others) :
    other.bind otherRecord = binder.bind record := by
  cases made : target.factory with
  | members allocated =>
      rw [bind_eq_assignCells made compiles, bind_eq_assignCells made otherCompiles,
        RowSchema.ofFilled, RowSchema.ofFilled, assignCells_eq_foldlM holds,
        assignCells_eq_foldlM otherHolds]
      refine extended.foldlM_eq (fun field isIdle object => ?_) allocated
      rw [assignField, isIdle.1]
  | positional construct =>
      rw [bind_eq_fillCells made compiles, bind_eq_fillCells made otherCompiles,
        RowSchema.ofFilled, RowSchema.ofFilled, fillCells_eq_foldlM holds,
        fillCells_eq_foldlM otherHolds]
      exact congrArg (· >>= _) (extended.foldlM_eq
        (fun _ isIdle _ => fillField_of_eq_none isIdle.1) _)
  | scalar make => exact absurd made (notScalar make)

/--
What the columns of a row are to a target.

Rearranging a row of a positional target makes no difference, if no two columns lead to the
same slot. The constructor gets one argument for each slot, and the zero value for a slot that
no column leads to. Idle columns make no difference anywhere, also if members are assigned.
-/
theorem build_and_bind_filledColumns
    (compiler : Compiler)
    (typeName : String)
    (target : TargetDescriptor τ)
    (fields others : List FilledColumn) :
    (∀ construct, target.factory = .positional construct →
      fields.Perm others →
        fields.Pairwise target.KeepsApart →
          ((∃ binder, compiler.build typeName target (.ofFilled fields) = .ok binder) ↔
            ∃ other, compiler.build typeName target (.ofFilled others) = .ok other) ∧
          ∀ binder other record otherRecord,
            compiler.build typeName target (.ofFilled fields) = .ok binder →
              compiler.build typeName target (.ofFilled others) = .ok other →
                record.HoldsAll fields → otherRecord.HoldsAll others →
                  binder.SameOutcome other record otherRecord) ∧
    (∀ construct, target.factory = .positional construct →
      ∀ schema binder record arguments,
        compiler.build typeName target schema = .ok binder →
          binder.Passes record arguments →
            arguments.length = target.arity ∧
              ∀ position member, target.members[position]? = some member →
                (∀ column ∈ schema.columns, target.reached? column ≠ some position) →
                  arguments[position]? = some member.zeroValue) ∧
    ((∀ make, target.factory ≠ .scalar make) →
      Extends (compiler.IsIdle target) fields others →
        Outcome.error? (compiler.build typeName target (.ofFilled others)) =
            Outcome.error? (compiler.build typeName target (.ofFilled fields)) ∧
          ∀ binder other record otherRecord,
            compiler.build typeName target (.ofFilled fields) = .ok binder →
              compiler.build typeName target (.ofFilled others) = .ok other →
                record.HoldsAll fields → otherRecord.HoldsAll others →
                  other.bind otherRecord = binder.bind record) := by
  refine ⟨fun construct made rearranged areApart => ⟨?_, ?_⟩, ?_, fun notScalar extended =>
    ⟨error?_build_of_extends notScalar typeName extended, ?_⟩⟩
  · exact exists_build_iff_of_perm (fun make => made ▸ nofun) typeName rearranged
  · exact fun _ _ _ _ => sameOutcome_of_perm made rearranged areApart
  · intro construct made schema binder record arguments compiles passes
    obtain ⟨sameLength, kept⟩ := length_and_getElem?_of_fillCells
      ((fillsSlots_of_build made compiles).passes_iff.mp passes)
    refine ⟨sameLength.trans (List.length_map _), fun position member isMember unreached => ?_⟩
    rw [kept position unreached, zeroArguments, List.getElem?_map, isMember]
    rfl
  · exact fun _ _ _ _ => bind_eq_of_extends notScalar extended

end Rows

/-! ### A number with a label -/

/-- A target of a number and a label, which are handed on as they are. -/
def labelTarget : TargetDescriptor (List Value) where
  identity := "Label"
  members :=
    [{ name := "number", declaredType := .primitive (.integer .int16) nofun },
      { name := "label", declaredType := .object }]
  factory := .positional .ok

/-- A column of numbers with the number two in it. -/
def numberField : FilledColumn :=
  ⟨⟨"number", .integer .int16, none⟩, .integer ⟨.int16, 2, by decide⟩⟩

/-- A column of labels with a label in it. -/
def labelField : FilledColumn :=
  ⟨⟨"LABEL", .string, none⟩, .string "b"⟩

/-- A column that cannot be read. -/
def unreadableField : FilledColumn :=
  ⟨⟨"duration", .time, none⟩, .null⟩

/-- A number and a label make the same object in both orders, a missing number is zero, and a
column that cannot be read does not matter. -/
theorem bind_labelTarget :
    (∃ binder other,
      ({} : Compiler).build "Label" labelTarget (.ofFilled [numberField, labelField]) =
          .ok binder ∧
        ({} : Compiler).build "Label" labelTarget (.ofFilled [labelField, numberField]) =
            .ok other ∧
          binder.SameOutcome other (.ofFilled [numberField, labelField])
            (.ofFilled [labelField, numberField])) ∧
    (∃ binder arguments,
      ({} : Compiler).build "Label" labelTarget (.ofFilled [labelField]) = .ok binder ∧
        binder.Passes (.ofFilled [labelField]) arguments ∧
          arguments.length = 2 ∧ arguments[0]? = some (.integer (.zero .int16))) ∧
    ∃ binder other,
      ({} : Compiler).build "Label" labelTarget (.ofFilled [labelField]) = .ok binder ∧
        ({} : Compiler).build "Label" labelTarget (.ofFilled [unreadableField, labelField]) =
            .ok other ∧
          other.bind (.ofFilled [unreadableField, labelField]) =
            binder.bind (.ofFilled [labelField]) := by
  have made : labelTarget.factory = .positional .ok := rfl
  have notScalar : ∀ make, labelTarget.factory ≠ .scalar make := fun make => made ▸ nofun
  refine ⟨⟨_, _, rfl, rfl, ?_⟩, ⟨_, _, rfl, ⟨_, _, rfl, rfl⟩, ?_⟩, _, _, rfl, rfl, ?_⟩
  · have areApart : [numberField, labelField].Pairwise labelTarget.KeepsApart := by
      refine List.pairwise_pair.mpr fun position isNumber isLabel => ?_
      cases isNumber
      cases isLabel
    obtain ⟨rearranged, -, -⟩ := build_and_bind_filledColumns {} "Label" labelTarget
      [numberField, labelField] [labelField, numberField]
    exact (rearranged _ made (.swap _ _ []) areApart).2 _ _ _ _ rfl rfl
      (RowRecord.holdsAll_ofFilled _) (RowRecord.holdsAll_ofFilled _)
  · obtain ⟨-, fills, -⟩ := build_and_bind_filledColumns {} "Label" labelTarget [] []
    obtain ⟨isLength, isZero⟩ := fills _ made (.ofFilled [labelField]) _ (.ofFilled [labelField]) _
      rfl ⟨_, _, rfl, rfl⟩
    refine ⟨isLength, isZero 0 _ rfl fun column member => ?_⟩
    obtain rfl := List.mem_singleton.mp member
    decide
  · have extended : Extends (({} : Compiler).IsIdle labelTarget) [labelField]
        [unreadableField, labelField] :=
      .insert ⟨rfl, rfl⟩ (.keep _ .nil)
    obtain ⟨-, -, inserted⟩ := build_and_bind_filledColumns {} "Label" labelTarget [labelField]
      [unreadableField, labelField]
    exact (inserted notScalar extended).2 _ _ _ _ rfl rfl
      (RowRecord.holdsAll_ofFilled _) (RowRecord.holdsAll_ofFilled _)

end Compiler
end RowBinding
