import RowBinding.Proofs.Binding.FloatColumns
import RowBinding.Proofs.Number.Numerals
import RowBinding.Proofs.NumericValues

/-!
# Number columns and truth values

A column of numbers binds to every member that is a truth value. An integer
comes to it as whether it is not zero, which is what every number converts to.
A float and a decimal come to it through their texts instead, and no text of a
number says whether something is true, so the row fails.
-/

namespace RowBinding

variable {τ : Type}

/-- A number converts to whether it is not zero. -/
theorem Value.convert_boolean_of_isNumeric
    {value : Value}
    (layouts : List String)
    (isNumeric : value.isNumeric = true) :
    value.convert layouts .boolean = .ok (.boolean (decide (value.toRat? ≠ some 0))) := by
  have isTruth := toBool_of_isNumeric isNumeric
  cases value with
  | integer | float32 | float64 | decimal => exact congrArg (Except.map Value.boolean) isTruth
  | _ => cases isNumeric

theorem Value.convert_boolean_of_string (layouts : List String) (text : String) :
    (Value.string text).convert layouts .boolean =
      (Value.string text).toBool.map Value.boolean := rfl

namespace Compiler

/--
What a plan for a truth value delivers on a row with a number.

The number converts to whether it is not zero. This is delivered for what is read as an
integer, while the text of what is read as a float or as a decimal is refused, and the
row with it.
-/
structure DeliversTruth
    (binder : Binder τ)
    (record : RowRecord)
    (earlier : List ColumnPlan)
    (plan : ColumnPlan)
    (read : ReadOperation)
    (cell : Value) : Prop where
  toBool_eq : cell.toBool = .ok (decide (cell.toRat? ≠ some 0))
  ofInteger : read.normalizesNumeric = false →
    binder.extract record plan = .ok (.boolean (decide (cell.toRat? ≠ some 0)))
  ofText : read.normalizesNumeric = true →
    ∃ text, cell.numericText? = some text ∧
      binder.FailsAt record earlier plan
        (.conversion plan.column (.parse text DataType.boolean.name))

section Cell

variable
  {compiler : Compiler}
  {column : ColumnDescriptor}
  {member : MemberDescriptor τ}
  {read : ReadOperation}

theorem suits_of_isNumeric
    (isNumeric : read.resultType.isNumeric = true)
    (isTruth : member.declaredType.dataType? = some .boolean)
    (notJson : member.isJson = false) :
    Suits member read := by
  refine suits_of_allows isTruth (by decide) notJson ?_
  cases read with
  | getByte | getInt16 | getInt32 | getInt64 | getFloat | getDouble | getDecimal => rfl
  | _ => cases isNumeric

theorem HasPlan.deliversTruth
    {binder : Binder τ}
    {earlier : List ColumnPlan}
    {plan : ColumnPlan}
    {record : RowRecord}
    {ordinal : Nat}
    {cell : Value}
    (hasPlan : compiler.HasPlan binder earlier plan ordinal column member)
    (readable : ConversionRules.readOperation? column.dataType = some read)
    (isNumeric : read.resultType.isNumeric = true)
    (isTruth : member.declaredType.dataType? = some .boolean)
    (notJson : member.isJson = false)
    (holds : record.Holds ordinal cell)
    (typed : cell.dataType? = some column.dataType) :
    DeliversTruth binder record earlier plan read cell := by
  have isTyped : read ≠ .getValue := by
    rintro rfl
    cases isNumeric
  rw [← ReadOperation.resultType_of_readOperation? readable isTyped] at typed
  have accepted : read.accepts cell = true := by simp [ReadOperation.accepts, typed]
  have isNumber : cell.isNumeric = true := by simp [Value.isNumeric, typed, isNumeric]
  have isValue : compiler.cellValue record ordinal column member = _ :=
    cellValue_of_accepts readable accepted isTruth (by decide) notJson holds
      (Value.isNull_of_dataType? typed)
  refine ⟨Value.toBool_of_isNumeric isNumber, fun isInteger => ?_, fun normalizes => ?_⟩
  · rw [isInteger, if_neg Bool.false_ne_true] at isValue
    rw [hasPlan.extract_eq, isValue]
    exact congrArg (Except.mapError _) (Value.convert_boolean_of_isNumeric _ isNumber)
  · obtain ⟨text, isText⟩ := ReadOperation.numericText?_of_accepts normalizes accepted
    rw [normalizes, if_pos rfl, isText, Option.map_some, Option.getD_some,
      Value.convert_boolean_of_string, Value.toBool_string_of_numericText? isText,
      ← hasPlan.column_eq] at isValue
    exact ⟨text, isText, hasPlan.failsAt isValue⟩

/--
A column that is read as a number binds to every truth value that is not JSON.

It delivers whether its integers are not zero, and no row with one of its floats or
decimals makes an object.
-/
theorem deliversTruth_of_isNumeric
    {compiler : Compiler}
    {column : ColumnDescriptor}
    {member : MemberDescriptor τ}
    {read : ReadOperation}
    (readable : ConversionRules.readOperation? column.dataType = some read)
    (isNumeric : read.resultType.isNumeric = true)
    (isTruth : member.declaredType.dataType? = some .boolean)
    (notJson : member.isJson = false) :
    (∀ ordinal sink, ∃ plan, planColumn ordinal column member sink = .ok plan) ∧
      ∀ {typeName : String}
        {target : TargetDescriptor τ}
        {schema : RowSchema}
        {binder : Binder τ}
        {ordinal : Nat},
        compiler.build typeName target schema = .ok binder →
          Binds target schema ordinal column member →
            ∃ earlier plan, compiler.HasPlan binder earlier plan ordinal column member ∧
              ∀ (record : RowRecord) (cell : Value),
                record.Holds ordinal cell → cell.dataType? = some column.dataType →
                  DeliversTruth binder record earlier plan read cell := by
  refine ⟨exists_planColumn_of_suits readable (suits_of_isNumeric isNumeric isTruth notJson),
    fun compiles binds => ?_⟩
  obtain ⟨earlier, plan, hasPlan⟩ := exists_hasPlan compiles binds
  exact ⟨earlier, plan, hasPlan, fun record cell holds typed =>
    hasPlan.deliversTruth readable isNumeric isTruth notJson holds typed⟩

end Cell

/-! ### Flags -/

/-- A member that is a truth value. -/
def flagMember : MemberDescriptor Value where
  name := ""
  declaredType := .primitive .boolean nofun

/-- A target that is a truth value. -/
def flag : TargetDescriptor Value :=
  .scalar "Flag" flagMember.declaredType flagMember.isNullable .ok

/-- A row with one value. -/
def cellRow (cell : Value) : RowRecord where
  isNull _ := .ok cell.isNull
  value _ := .ok cell

theorem holds_cellRow (cell : Value) : (cellRow cell).Holds 0 cell :=
  ⟨rfl, rfl⟩

theorem binds_flag (column : ColumnDescriptor) :
    Binds flag ⟨[column]⟩ 0 column flagMember :=
  ⟨rfl, rfl, rfl⟩

/-- A column of integers. -/
def integerColumn : ColumnDescriptor where
  name := "number"
  dataType := .integer .int64

/-- A column of decimals. -/
def decimalColumn : ColumnDescriptor where
  name := "number"
  dataType := .decimal

/-- The integer two is a flag that is set, and the decimal one is no flag. -/
theorem extract_two :
    ∃ binder plan,
      ({} : Compiler).build "Flag" flag ⟨[integerColumn]⟩ = .ok binder ∧
        plan ∈ binder.plans ∧
          binder.extract (cellRow (.integer ⟨.int64, 2, by decide⟩)) plan =
            .ok (.boolean true) ∧
          ∃ other otherPlan,
            ({} : Compiler).build "Flag" flag ⟨[decimalColumn]⟩ = .ok other ∧
              otherPlan ∈ other.plans ∧
                other.extract (cellRow (.decimal .one)) otherPlan =
                  .error (.conversion "number" (.parse "1" "Boolean")) := by
  have readsInteger :
      ConversionRules.readOperation? integerColumn.dataType = some .getInt64 := rfl
  have readsDecimal :
      ConversionRules.readOperation? decimalColumn.dataType = some .getDecimal := rfl
  have isTruth : flagMember.declaredType.dataType? = some .boolean := rfl
  obtain ⟨binder, compiles⟩ : ∃ binder,
      ({} : Compiler).build "Flag" flag ⟨[integerColumn]⟩ = .ok binder := ⟨_, rfl⟩
  obtain ⟨other, otherCompiles⟩ : ∃ other,
      ({} : Compiler).build "Flag" flag ⟨[decimalColumn]⟩ = .ok other := ⟨_, rfl⟩
  obtain ⟨earlier, plan, hasPlan, delivers⟩ :=
    (deliversTruth_of_isNumeric readsInteger rfl isTruth rfl).2 compiles (binds_flag _)
  obtain ⟨otherEarlier, otherPlan, hasOtherPlan, otherDelivers⟩ :=
    (deliversTruth_of_isNumeric readsDecimal rfl isTruth rfl).2 otherCompiles (binds_flag _)
  obtain ⟨later, isPlans⟩ := hasPlan.exists_later
  obtain ⟨otherLater, areOtherPlans⟩ := hasOtherPlan.exists_later
  refine ⟨binder, plan, compiles, by simp [isPlans], ?_, other, otherPlan, otherCompiles,
    by simp [areOtherPlans], ?_⟩
  · exact (delivers _ _ (holds_cellRow _) rfl).ofInteger rfl
  · obtain ⟨text, isText, fails, _⟩ :=
      (otherDelivers _ (.decimal .one) (holds_cellRow _) rfl).ofText rfl
    rw [hasOtherPlan.column_eq] at fails
    cases isText
    exact fails

/-- The double one and a half. -/
def oneAndHalf : Float64Value :=
  .signed false (1023 * twoPow 52 + twoPow 51) (by decide)

/-- A double that is not zero converts to true, yet it is no flag that is set. -/
theorem bind_oneAndHalf :
    oneAndHalf.toRat? = some (3 / 2) ∧
      (Value.float64 oneAndHalf).toBool = .ok true ∧
        ∃ binder, ({} : Compiler).build "Flag" flag ⟨[doubleColumn]⟩ = .ok binder ∧
          binder.bind (cellRow (.float64 oneAndHalf)) =
            .error (.conversion "number" (.parse "1.5" "Boolean")) := by
  have isExact : oneAndHalf.toRat? = some (3 / 2) := by decide +kernel
  have isText : oneAndHalf.toText = "1.5" := by decide +kernel
  have readsDouble :
      ConversionRules.readOperation? doubleColumn.dataType = some .getDouble := rfl
  obtain ⟨binder, compiles, made⟩ : ∃ binder,
      ({} : Compiler).build "Flag" flag ⟨[doubleColumn]⟩ = .ok binder ∧
        binder.construction = .scalar .ok := ⟨_, rfl, rfl⟩
  obtain ⟨earlier, plan, hasPlan⟩ := exists_hasPlan compiles (binds_flag doubleColumn)
  have delivers := hasPlan.deliversTruth readsDouble rfl rfl rfl
    (holds_cellRow (.float64 oneAndHalf)) rfl
  have isTrue : (Value.float64 oneAndHalf).toBool = .ok true := by
    rw [delivers.toBool_eq, Value.toRat?, isExact]
    exact congrArg Except.ok (by decide +kernel)
  obtain ⟨text, isNumber, fails, _⟩ := delivers.ofText rfl
  cases isNumber
  rw [hasPlan.extract_eq, hasPlan.column_eq, isText] at fails
  refine ⟨isExact, isTrue, binder, compiles, ?_⟩
  rw [hasPlan.bind_eq_of_scalar made, fails]
  rfl

end Compiler
end RowBinding
