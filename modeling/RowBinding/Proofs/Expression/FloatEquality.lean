import RowBinding.Proofs.Binding.FloatColumns
import RowBinding.Proofs.Expression.Equality
import RowBinding.Proofs.Number.FloatPlaces

/-!
# Equality of floats as an operator

Two finite floats are compared by their decimals, and these have twenty-eight
places. Floats that are equal compare equal, but so do small floats that differ
only behind these places. If neither float is so small, or if one of them is not
finite, the operator tells exactly the floats apart that are not equal.
-/

namespace RowBinding

namespace FloatWidth

variable {width : FloatWidth}

theorem roundTripDigits_lt (width : FloatWidth) :
    2 * 10 ^ width.format.roundTripDigits < mantissaBound := by
  cases width <;> decide

theorem equal_cell (left right : Floating width.format) :
    (width.cell left).equal (width.cell right) = left.equal right := by
  cases width <;> rfl

/-- A float is compared by the decimal that its text reads as. -/
theorem decimal?_cell (float : Floating width.format) :
    (width.cell float).decimal? =
      (Decimal.read? float.toText.toList).map Decimal.toRat := by
  have isDecimal : (width.cell float).decimal? =
      (Value.decimalOfText float.toText).toOption.map Decimal.toRat := by
    cases width <;> rfl
  rw [isDecimal, Value.decimalOfText, Floating.trimChars_toText width.separatesDigits]
  cases Decimal.read? float.toText.toList <;> rfl

theorem decimal?_cell_eq_none
    {float : Floating width.format}
    (notFinite : float.toRat? = none) :
    (width.cell float).decimal? = none := by
  rw [decimal?_cell, Floating.read?_toText_eq_none notFinite, Option.map_none]

/-- A finite float is compared by its units, if these are not too many. -/
theorem decimal?_cell_cases
    {float : Floating width.format}
    {value : Rat}
    (isValue : float.toRat? = some value) :
    ∃ units, float.units? = some units ∧
      ((width.cell float).decimal? = some (Decimal.ofUnits units) ∧
          |Decimal.ofUnits units| < mantissaBound ∨
        (width.cell float).decimal? = none ∧
          float.written? = some (Decimal.ofUnits units) ∧
            mantissaBound ≤ |Decimal.ofUnits units|) := by
  obtain ⟨units, isUnits, reads⟩ := Floating.read?_toText_cases width.separatesDigits
    width.roundTripDigits_lt isValue
  refine ⟨units, isUnits, ?_⟩
  rw [decimal?_cell]
  rcases reads with ⟨decimal, isDecimal, isNearest⟩ | ⟨isNone, isWritten, large⟩
  · refine .inl ⟨?_, ?_⟩
    · rw [isDecimal, Option.map_some, isNearest]
    · rw [← isNearest]
      exact decimal.abs_toRat_lt
  · exact .inr ⟨by rw [isNone, Option.map_none], isWritten, large⟩

/-- Finite floats compare equal if they have the same units. -/
theorem valuesEqual_cell_iff
    {left right : Floating width.format}
    {leftValue rightValue : Rat}
    (isLeft : left.toRat? = some leftValue)
    (isRight : right.toRat? = some rightValue) :
    (width.cell left).valuesEqual (width.cell right) = true ↔ left.units? = right.units? := by
  obtain ⟨units, isUnits, fits⟩ := decimal?_cell_cases isLeft
  obtain ⟨others, areOthers, otherFits⟩ := decimal?_cell_cases isRight
  have sameUnits : Decimal.ofUnits units = Decimal.ofUnits others ↔ units = others :=
    Decimal.ofUnits_injective.eq_iff
  rw [Value.valuesEqual_iff_decimal?, equal_cell, isUnits, areOthers, Option.some_inj]
  rcases fits with ⟨isDecimal, small⟩ | ⟨isNone, isWritten, large⟩ <;>
    rcases otherFits with ⟨isOther, otherSmall⟩ | ⟨otherNone, otherWritten, otherLarge⟩
  · simp [isDecimal, isOther, sameUnits]
  · have different : units ≠ others := by
      rintro rfl
      exact absurd small (not_lt.mpr otherLarge)
    simp [isDecimal, otherNone, different]
  · have different : units ≠ others := by
      rintro rfl
      exact absurd otherSmall (not_lt.mpr large)
    simp [isNone, isOther, different]
  · rw [isNone, otherNone, Floating.equal_iff_written? width.separatesDigits isLeft isRight,
      isWritten, otherWritten, Option.some_inj, sameUnits]
    simp

theorem valuesEqual_cell_of_not_finite
    {left right : Floating width.format}
    (notFinite : left.toRat? = none ∨ right.toRat? = none) :
    (width.cell left).valuesEqual (width.cell right) = left.equal right := by
  rw [Value.valuesEqual_eq, equal_cell]
  rcases notFinite with isLeft | isRight
  · rw [decimal?_cell_eq_none isLeft]
  · rw [decimal?_cell_eq_none isRight]
    cases (width.cell left).decimal? <;> rfl

/-- Whether two floats compare equal: finite ones by their units, and others as floats. -/
def comparesEqual (left right : Floating width.format) : Bool :=
  if left.isFinite && right.isFinite then left.units? == right.units? else left.equal right

theorem valuesEqual_cell (left right : Floating width.format) :
    (width.cell left).valuesEqual (width.cell right) = comparesEqual left right := by
  unfold comparesEqual Floating.isFinite
  cases isLeft : left.toRat? with
  | none => exact valuesEqual_cell_of_not_finite (.inl isLeft)
  | some leftValue =>
      cases isRight : right.toRat? with
      | none => exact valuesEqual_cell_of_not_finite (.inr isRight)
      | some rightValue =>
          rw [Bool.eq_iff_iff, valuesEqual_cell_iff isLeft isRight]
          simp

/-- Floats that are equal compare equal. -/
theorem comparesEqual_of_equal
    {left right : Floating width.format}
    (isEqual : left.equal right = true) :
    comparesEqual left right = true := by
  rw [← equal_cell] at isEqual
  rw [← valuesEqual_cell, Value.valuesEqual_iff_decimal?]
  exact ⟨Value.decimal?_eq_of_equal isEqual, fun _ => isEqual⟩

/-- Floats that compare equal are equal, unless one is tiny. -/
theorem equal_of_comparesEqual
    {left right : Floating width.format}
    (compares : comparesEqual left right = true)
    (notTiny : ¬ left.IsTiny)
    (otherNotTiny : ¬ right.IsTiny) :
    left.equal right = true := by
  unfold comparesEqual Floating.isFinite at compares
  cases isLeft : left.toRat? with
  | none => simpa [isLeft] using compares
  | some leftValue =>
      cases isRight : right.toRat? with
      | none => simpa [isLeft, isRight] using compares
      | some rightValue =>
          obtain ⟨units, isUnits, isWritten⟩ :=
            Floating.exists_written?_eq_ofUnits width.separatesDigits isLeft notTiny
          obtain ⟨others, areOthers, otherWritten⟩ :=
            Floating.exists_written?_eq_ofUnits width.separatesDigits isRight otherNotTiny
          have sameUnits : units = others := by
            simpa [isLeft, isRight, isUnits, areOthers] using compares
          rw [Floating.equal_iff_written? width.separatesDigits isLeft isRight, isWritten,
            otherWritten, sameUnits]

end FloatWidth

namespace Expr

/--
What equality of two floats of one width evaluates to.

Finite floats are equal for it if the numbers that their texts denote are nearest to the same
number of twenty-eight places, and other floats if they are equal as floats. Inequality is the
opposite. All equal floats are equal for it, and if neither of them is tiny, then no others.
-/
theorem result_evaluate_equal_cell
    (environment : Environment)
    (width : FloatWidth)
    (left right : Floating width.format)
    (leftType rightType : StaticType) :
    let first : TypedConstant := ⟨width.cell left, leftType⟩
    let second : TypedConstant := ⟨width.cell right, rightType⟩
    let truth := FloatWidth.comparesEqual left right
    ((Expr.binary .equal first.toExpr second.toExpr).evaluate environment).result =
        .ok (.boolean truth) ∧
      ((Expr.binary .notEqual first.toExpr second.toExpr).evaluate environment).result =
        .ok (.boolean !truth) ∧
      (left.equal right = true → truth = true) ∧
      (¬ left.IsTiny → ¬ right.IsTiny → truth = left.equal right) := by
  intro first second truth
  have isTruth : first.value.valuesEqual second.value = truth :=
    FloatWidth.valuesEqual_cell left right
  refine ⟨?_, ?_, FloatWidth.comparesEqual_of_equal, fun notTiny otherNotTiny => ?_⟩
  · rw [result_evaluate_equal, isTruth]
  · rw [result_evaluate_notEqual, isTruth]
  · rw [Bool.eq_iff_iff]
    exact ⟨fun compares => FloatWidth.equal_of_comparesEqual compares notTiny otherNotTiny,
      FloatWidth.comparesEqual_of_equal⟩

/-- The double that is written as one behind twenty-nine zeros. -/
def smallDouble : Float64Value :=
  .signed false 4158027847206421152 (by decide)

/-- The double that is written as two behind twenty-nine zeros. -/
def twiceSmallDouble : Float64Value :=
  .signed false 4162531446833791648 (by decide)

/-- Two doubles that are not equal compare equal, as both have zero for their decimal. -/
theorem evaluate_equal_smallDouble :
    smallDouble.isFinite = true ∧ twiceSmallDouble.isFinite = true ∧
      smallDouble.equal twiceSmallDouble = false ∧
      ((Expr.binary .equal (.constant (.float64 smallDouble) .float64)
        (.constant (.float64 twiceSmallDouble) .float64)).evaluate fieldsOnly).result =
          .ok (.boolean true) ∧
      ((Expr.binary .notEqual (.constant (.float64 smallDouble) .float64)
        (.constant (.float64 twiceSmallDouble) .float64)).evaluate fieldsOnly).result =
          .ok (.boolean false) := by
  let first : TypedConstant := ⟨FloatWidth.double.cell smallDouble, .float64⟩
  let second : TypedConstant := ⟨FloatWidth.double.cell twiceSmallDouble, .float64⟩
  have bothZero : smallDouble.units? = some 0 ∧ twiceSmallDouble.units? = some 0 := by
    decide +kernel
  have areFinite : smallDouble.isFinite = true ∧ twiceSmallDouble.isFinite = true := by
    decide +kernel
  have isTruth : first.value.valuesEqual second.value = true :=
    (@FloatWidth.valuesEqual_cell_iff .double smallDouble twiceSmallDouble _ _ rfl rfl).mpr
      (bothZero.1.trans bothZero.2.symm)
  have isEqual := result_evaluate_equal fieldsOnly first second
  have isNotEqual := result_evaluate_notEqual fieldsOnly first second
  rw [isTruth] at isEqual isNotEqual
  exact ⟨areFinite.1, areFinite.2, by decide, isEqual, isNotEqual⟩

/-- The double that is written as one tenth. -/
def doubleTenth : Float64Value :=
  .signed false 4591870180066957722 (by decide)

/-- The next double. -/
def aboveDoubleTenth : Float64Value :=
  .signed false 4591870180066957723 (by decide)

/-- Neighbouring doubles that are not tiny do not compare equal. -/
theorem evaluate_equal_doubleTenth :
    ¬ doubleTenth.IsTiny ∧ ¬ aboveDoubleTenth.IsTiny ∧
      ((Expr.binary .equal (.constant (.float64 doubleTenth) .float64)
        (.constant (.float64 aboveDoubleTenth) .float64)).evaluate fieldsOnly).result =
          .ok (.boolean false) := by
  have notTiny : ¬ doubleTenth.IsTiny := by
    rintro ⟨value, isValue, _, small⟩
    cases isValue
    revert small
    decide +kernel
  have otherNotTiny : ¬ aboveDoubleTenth.IsTiny := by
    rintro ⟨value, isValue, _, small⟩
    cases isValue
    revert small
    decide +kernel
  obtain ⟨isEqual, _, _, isExact⟩ := result_evaluate_equal_cell fieldsOnly .double doubleTenth
    aboveDoubleTenth .float64 .float64
  rw [isExact notTiny otherNotTiny] at isEqual
  exact ⟨notTiny, otherNotTiny, isEqual⟩

end Expr
end RowBinding
