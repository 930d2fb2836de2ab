import RowBinding.Proofs.Binding.NumbersAsTruth
import RowBinding.Proofs.NumberTexts

/-!
# Decimal columns

A decimal comes to a member through the text of its normal form, which loses
nothing: a decimal member gets the same number without zeros at its end, and a
text that is read as it again.

To an integer member it comes only if it is an integer, whatever places it is
stored with. While the conversion of decimals to integers rounds, the text of a
decimal with a fraction does not read as an integer, and the row fails.
-/

namespace RowBinding

variable {τ : Type}

/-- The types whose members take decimals by their texts. -/
def DataType.TakesDecimals : DataType → Prop
  | .decimal | .string | .integer _ => True
  | _ => False

namespace Compiler

/--
What a plan for a member of a type makes of a decimal in a row.

There is one normal decimal of the same value. A decimal member gets it, and a text is its
text, which reads as it. An integer member gets the value, or the row fails at the plan:
with an overflow if the value is an integer that is not of the kind, and with a text that
does not read if the value is no integer.
-/
structure DeliversNormal
    (binder : Binder τ)
    (record : RowRecord)
    (earlier : List ColumnPlan)
    (plan : ColumnPlan)
    (type : DataType)
    (decimal normal : Decimal) : Prop where
  isNormal : normal.IsNormal
  sameValue : normal.toRat = decimal.toRat
  reads : Value.decimalOfText normal.toText = .ok normal
  toDecimal : type = .decimal → binder.extract record plan = .ok (.decimal normal)
  toText : type = .string → binder.extract record plan = .ok (.string normal.toText)
  toInteger : ∀ kind, type = .integer kind → ∀ exact : Int, decimal.toRat = exact →
    (∃ inRange, binder.extract record plan = .ok (.integer ⟨kind, exact, inRange⟩)) ∨
      ¬ kind.Contains exact ∧
        binder.FailsAt record earlier plan
          (.conversion plan.column (.overflow (Text.ofInt exact) kind.name))
  ofFraction : ∀ kind, type = .integer kind → (∀ exact : Int, decimal.toRat ≠ exact) →
    binder.FailsAt record earlier plan
      (.conversion plan.column (.parse normal.toText kind.name))

section Cell

variable
  {compiler : Compiler}
  {column : ColumnDescriptor}
  {member : MemberDescriptor τ}
  {type : DataType}

/-- A decimal column is never refused for a member that takes decimals. -/
theorem exists_planColumn_of_decimal
    (isDecimal : column.dataType = .decimal)
    (targeted : member.declaredType.dataType? = some type)
    (takes : type.TakesDecimals)
    (notJson : member.isJson = false)
    (ordinal : Nat)
    (sink : Sink) :
    ∃ plan, planColumn ordinal column member sink = .ok plan := by
  have readable : ConversionRules.readOperation? column.dataType = some .getDecimal := by
    rw [isDecimal]
    rfl
  have allowed : ConversionRules.allows .string type = true := by
    cases type with
    | decimal | string | integer => rfl
    | _ => cases takes
  have notObject : type ≠ .object := by
    rintro rfl
    cases takes
  exact exists_planColumn_of_suits readable (suits_of_allows targeted notObject notJson allowed)
    ordinal sink

/-- A decimal is worth to a member what the text of its normal form converts to. -/
theorem cellValue_of_decimal
    {record : RowRecord}
    {ordinal : Nat}
    {decimal : Decimal}
    (isDecimal : column.dataType = .decimal)
    (targeted : member.declaredType.dataType? = some type)
    (notObject : type ≠ .object)
    (notJson : member.isJson = false)
    (holds : record.Holds ordinal (.decimal decimal)) :
    compiler.cellValue record ordinal column member =
      ((Value.string decimal.normalize.toText).convert compiler.config.layouts type).mapError
        (.conversion column.name) := by
  have readable : ConversionRules.readOperation? column.dataType = some .getDecimal := by
    rw [isDecimal]
    rfl
  exact cellValue_of_accepts readable rfl targeted notObject notJson holds rfl

theorem HasPlan.deliversNormal
    {binder : Binder τ}
    {earlier : List ColumnPlan}
    {plan : ColumnPlan}
    {record : RowRecord}
    {ordinal : Nat}
    {decimal : Decimal}
    (hasPlan : compiler.HasPlan binder earlier plan ordinal column member)
    (isDecimal : column.dataType = .decimal)
    (targeted : member.declaredType.dataType? = some type)
    (notJson : member.isJson = false)
    (holds : record.Holds ordinal (.decimal decimal)) :
    DeliversNormal binder record earlier plan type decimal decimal.normalize := by
  have isNormal := decimal.isNormal_normalize
  have sameValue := decimal.toRat_normalize
  have isText := decimal.normalize.trimChars_toText
  have isValue (notObject : type ≠ .object) :
      compiler.cellValue record ordinal column member = _ :=
    cellValue_of_decimal isDecimal targeted notObject notJson holds
  rw [← hasPlan.column_eq] at isValue
  refine ⟨isNormal, sameValue, Value.decimalOfText_toText isNormal, ?_, ?_, ?_, ?_⟩
  · rintro rfl
    rw [hasPlan.extract_eq, isValue (by decide),
      Value.convert_string_eq_convertTo _ _ .decimal (by decide) (by decide), Value.convertTo,
      Value.toDecimal, Value.decimalOfText_toText isNormal]
    rfl
  · rintro rfl
    rw [hasPlan.extract_eq, isValue (by decide), Value.convert_of_dataType? _ rfl]
    rfl
  · rintro kind rfl exact isExact
    have reads := isNormal.readInt?_toText (sameValue.trans isExact)
    rw [← isText] at reads
    have isInteger := isValue (by simp)
    rw [Value.convert_string_of_readInt? _ kind reads (Value.isTextInteger_of_toRat isExact)]
      at isInteger
    by_cases inRange : kind.Contains exact
    · rw [Value.narrow_of_contains inRange] at isInteger
      exact .inl ⟨inRange, (hasPlan.extract_eq record).trans isInteger⟩
    · rw [Value.narrow_of_not_contains inRange] at isInteger
      exact .inr ⟨inRange, hasPlan.failsAt isInteger⟩
  · rintro kind rfl noInteger
    have noNumber := Decimal.readInt?_toText_eq_none fun exact isExact =>
      noInteger exact (sameValue.symm.trans isExact)
    rw [← isText] at noNumber
    have isRefused := isValue (by simp)
    rw [Value.convert_string_of_readInt?_eq_none _ kind noNumber] at isRefused
    exact hasPlan.failsAt isRefused

/-- A decimal column binds to every decimal, text and integer that is not JSON, and
delivers its decimals without loss or not at all. -/
theorem deliversNormal_of_takesDecimals
    {compiler : Compiler}
    {column : ColumnDescriptor}
    {member : MemberDescriptor τ}
    {type : DataType}
    (isDecimal : column.dataType = .decimal)
    (targeted : member.declaredType.dataType? = some type)
    (takes : type.TakesDecimals)
    (notJson : member.isJson = false) :
    (∀ ordinal sink, ∃ plan, planColumn ordinal column member sink = .ok plan) ∧
      ∀ {typeName : String}
        {target : TargetDescriptor τ}
        {schema : RowSchema}
        {binder : Binder τ}
        {ordinal : Nat},
        compiler.build typeName target schema = .ok binder →
          Binds target schema ordinal column member →
            ∃ earlier plan, compiler.HasPlan binder earlier plan ordinal column member ∧
              ∀ (record : RowRecord) (decimal : Decimal),
                record.Holds ordinal (.decimal decimal) →
                  ∃ normal, DeliversNormal binder record earlier plan type decimal normal := by
  refine ⟨exists_planColumn_of_decimal isDecimal targeted takes notJson,
    fun compiles binds => ?_⟩
  obtain ⟨earlier, plan, hasPlan⟩ := exists_hasPlan compiles binds
  exact ⟨earlier, plan, hasPlan, fun record decimal holds =>
    ⟨_, hasPlan.deliversNormal isDecimal targeted notJson holds⟩⟩

end Cell

/-! ### Whole numbers in decimal columns -/

/-- The decimal five with two places. -/
def fiveInFull : Decimal :=
  .ofFewDigits false 500 2

/-- The decimal two and a half. -/
def twoAndHalf : Decimal :=
  .ofFewDigits false 25 1

theorem toRat_twoAndHalf_ne (exact : Int) : twoAndHalf.toRat ≠ exact := by
  intro isExact
  have isProduct : 25 = exact.natAbs * 10 := Decimal.mantissa_eq_mul_tenPow isExact
  omega

/-- A whole number gets five from five with two places, and fails on two and a half. -/
theorem extract_fiveInFull :
    ∃ binder plan,
      ({} : Compiler).build "WholeNumber" wholeNumber ⟨[decimalColumn]⟩ = .ok binder ∧
        plan ∈ binder.plans ∧
          binder.extract (cellRow (.decimal fiveInFull)) plan =
            .ok (.integer ⟨.int64, 5, by decide⟩) ∧
          ∃ text, binder.extract (cellRow (.decimal twoAndHalf)) plan =
            .error (.conversion "number" (.parse text "Int64")) := by
  have isDecimal : decimalColumn.dataType = .decimal := rfl
  have isInteger : wholeMember.declaredType.dataType? = some (.integer .int64) := rfl
  have isFive : fiveInFull.toRat = (5 : Int) := by decide +kernel
  obtain ⟨binder, compiles⟩ : ∃ binder,
      ({} : Compiler).build "WholeNumber" wholeNumber ⟨[decimalColumn]⟩ = .ok binder := ⟨_, rfl⟩
  have binds : Binds wholeNumber ⟨[decimalColumn]⟩ 0 decimalColumn wholeMember := ⟨rfl, rfl, rfl⟩
  obtain ⟨earlier, plan, hasPlan, delivers⟩ :=
    (deliversNormal_of_takesDecimals isDecimal isInteger trivial rfl).2 compiles binds
  obtain ⟨later, isPlans⟩ := hasPlan.exists_later
  refine ⟨binder, plan, compiles, by simp [isPlans], ?_, ?_⟩
  · obtain ⟨_, deliversFive⟩ := delivers _ fiveInFull (holds_cellRow _)
    rcases deliversFive.toInteger _ rfl 5 isFive with ⟨_, isInt⟩ | ⟨outside, _⟩
    · exact isInt
    · exact absurd (by decide) outside
  · obtain ⟨normal, deliversHalf⟩ := delivers _ twoAndHalf (holds_cellRow _)
    have fails := (deliversHalf.ofFraction _ rfl toRat_twoAndHalf_ne).1
    rw [hasPlan.column_eq] at fails
    exact ⟨_, fails⟩

end Compiler
end RowBinding
