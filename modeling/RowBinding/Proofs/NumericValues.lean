import RowBinding.Conversion
import RowBinding.Proofs.Number.DecimalTexts
import RowBinding.Proofs.Number.Widening
import RowBinding.Proofs.Outcome

/-!
# Values as numbers

An integer, a finite float and a decimal denote a number, and they are true if
the number is not zero. Infinities and what is not a number denote none, and
they are true as well.

A value that has a decimal denotes a number. A value that is near a 64-bit
integer has a decimal. The two can differ: the integer is nearest to the number,
while the decimal of a float is that of its text.
-/

namespace RowBinding

/-- Only the zeros of either sign denote zero. -/
theorem Floating.toRat?_eq_zero_iff
    {format : FloatFormat}
    (infinite : 0 < format.infinityRank)
    (float : Floating format) :
    float.toRat? = some 0 ↔ float.isZero = true := by
  cases float with
  | nan => simp [toRat?, isZero]
  | signed negative rank bounded =>
      have isZero_iff : format.magnitude rank = 0 ↔ rank = 0 := by
        rw [← format.magnitude_zero]
        exact format.magnitude_strictMono.injective.eq_iff
      rw [toRat?, isZero, beq_iff_eq, ← isZero_iff]
      split_ifs with isInfinite isNegative
      · have positive := format.magnitude_pos (isInfinite ▸ infinite)
        simp [positive.ne']
      · rw [Option.some_inj, neg_eq_zero]
      · rw [Option.some_inj]

theorem Decimal.toRat_eq_zero_iff (decimal : Decimal) :
    decimal.toRat = 0 ↔ decimal.isZero = true := by
  have isZero_iff : decimal.magnitude = 0 ↔ decimal.mantissa = 0 := by
    rw [magnitude, div_eq_zero_iff, or_iff_left (natCast_tenPow_ne_zero _), Nat.cast_eq_zero]
  rw [toRat, isZero, beq_iff_eq, ← isZero_iff]
  split_ifs
  · exact neg_eq_zero
  · exact Iff.rfl

namespace Value

/-- The number that an integer, a finite float or a decimal denotes. -/
def toRat? : Value → Option Rat
  | .integer value => some value.value
  | .float32 value => value.toRat?
  | .float64 value => value.toRat?
  | .decimal value => some value.toRat
  | _ => none

/-- A number is true if it is not zero. -/
theorem toBool_of_isNumeric {value : Value} (isNumeric : value.isNumeric = true) :
    value.toBool = .ok (decide (value.toRat? ≠ some 0)) := by
  cases value with
  | integer integer =>
      rw [toBool, toRat?, bne, beq_eq_decide]
      simp
  | float32 float =>
      have isZero_iff := Floating.toRat?_eq_zero_iff (by decide) float
      simp [toBool, toRat?, isZero_iff]
  | float64 float =>
      have isZero_iff := Floating.toRat?_eq_zero_iff (by decide) float
      simp [toBool, toRat?, isZero_iff]
  | decimal decimal => simp [toBool, toRat?, decimal.toRat_eq_zero_iff]
  | _ => cases isNumeric

/-! ## Integers and decimals of numbers -/

theorem narrow_of_contains
    {kind : IntegerKind}
    {number : Int}
    (inRange : kind.Contains number) :
    narrow number kind = .ok ⟨kind, number, inRange⟩ := by
  rw [narrow, Integer.ofInt?, dif_pos inRange]

theorem narrow_of_not_contains
    {kind : IntegerKind}
    {number : Int}
    (outside : ¬ kind.Contains number) :
    narrow number kind = .error (.overflow (Text.ofInt number) kind.name) := by
  rw [narrow, Integer.ofInt?, dif_neg outside]
  rfl

/-- An integer that is brought to a kind keeps its value. -/
theorem value_of_narrow
    {kind : IntegerKind}
    {number : Int}
    {integer : Integer}
    (narrowed : narrow number kind = .ok integer) :
    integer.value = number := by
  by_cases inRange : kind.Contains number
  · rw [narrow_of_contains inRange] at narrowed
    cases narrowed
    rfl
  · rw [narrow_of_not_contains inRange] at narrowed
    cases narrowed

theorem exists_toRat?_of_floatToInt
    {float : Float64Value}
    {target : DataType}
    {number : Int}
    (isNear : floatToInt float target = .ok number) :
    ∃ exact, float.toRat? = some exact ∧ number = Rounding.nearestEven exact := by
  unfold floatToInt at isNear
  split at isNear
  · next exact isExact =>
      dsimp only at isNear
      split at isNear
      · exact ⟨exact, isExact, (Except.ok.inj isNear).symm⟩
      · cases isNear
  · cases isNear

/-- A number that is near a 64-bit integer is rounded to it. -/
theorem exists_toRat?_of_toInteger
    {value : Value}
    {number : Integer}
    (isNumeric : value.isNumeric = true)
    (isNear : value.toInteger .int64 = .ok number) :
    ∃ exact, value.toRat? = some exact ∧ number.value = Rounding.nearestEven exact := by
  obtain ⟨rounded, isRounded, narrowed⟩ := Outcome.bind_eq_ok_iff.mp isNear
  rw [value_of_narrow narrowed]
  cases value with
  | integer integer =>
      cases isRounded
      exact ⟨_, rfl, (Rounding.nearestEven_intCast _).symm⟩
  | float32 float =>
      have isExact := exists_toRat?_of_floatToInt isRounded
      rwa [Floating.toRat?_toFormat FloatFormat.widens_binary32_binary64] at isExact
  | float64 float => exact exists_toRat?_of_floatToInt isRounded
  | decimal denoted =>
      cases isRounded
      exact ⟨_, rfl, rfl⟩
  | _ => cases isNumeric

section Float

variable {format : FloatFormat} {float : Floating format}

theorem decimalOfText_of_read?
    (separates : format.SeparatesDigits)
    {read : Decimal}
    (reads : Decimal.read? float.toText.toList = some read) :
    decimalOfText float.toText = .ok read := by
  rw [decimalOfText, Floating.trimChars_toText separates, reads]

/-- Only a finite float has a decimal. -/
theorem exists_toRat?_of_decimalOfText
    (separates : format.SeparatesDigits)
    {read : Decimal}
    (isDecimal : decimalOfText float.toText = .ok read) :
    ∃ exact, float.toRat? = some exact := by
  cases isValue : float.toRat? with
  | some exact => exact ⟨exact, rfl⟩
  | none =>
      rw [decimalOfText, Floating.trimChars_toText separates,
        Floating.read?_toText_eq_none isValue] at isDecimal
      cases isDecimal

/-- A whole float below two full binades has the decimal of its value. -/
theorem toRat_of_decimalOfText
    (separates : format.SeparatesDigits)
    (fine : format.leastExponent ≤ 0)
    (narrow : 2 * twoPow format.fractionBits ≤ mantissaBound)
    {exact : Int}
    (isExact : float.toRat? = some (exact : Rat))
    (small : exact.natAbs < 2 * twoPow format.fractionBits)
    {read : Decimal}
    (isDecimal : decimalOfText float.toText = .ok read) :
    read.toRat = exact := by
  obtain ⟨other, reads, isValue⟩ :=
    Floating.exists_read?_toText_eq separates fine narrow isExact small
  rw [decimalOfText_of_read? separates reads] at isDecimal
  cases isDecimal
  exact isValue

end Float

/-- A value that has a decimal denotes a number. -/
theorem exists_toRat?_of_toDecimal
    {value : Value}
    {denoted : Decimal}
    (isNumeric : value.isNumeric = true)
    (isDecimal : value.toDecimal = .ok denoted) :
    ∃ exact, value.toRat? = some exact := by
  cases value with
  | integer integer => exact ⟨_, rfl⟩
  | float32 float =>
      exact exists_toRat?_of_decimalOfText FloatFormat.separatesDigits_binary32 isDecimal
  | float64 float =>
      exact exists_toRat?_of_decimalOfText FloatFormat.separatesDigits_binary64 isDecimal
  | decimal decimal => exact ⟨_, rfl⟩
  | _ => cases isNumeric

theorem exists_toDecimal_of_integer (integer : Integer) :
    ∃ denoted, (Value.integer integer).toDecimal = .ok denoted ∧
      denoted.toRat = (integer.value : Rat) := by
  have fits : integer.value.natAbs < mantissaBound := by
    have isSmall := integer.inRange.natAbs_le
    unfold mantissaBound
    omega
  obtain ⟨denoted, isDenoted, isValue⟩ := Decimal.exists_ofInt? fits
  exact ⟨denoted, by rw [toDecimal, isDenoted], isValue⟩

/-- A number that is near a 64-bit integer has a decimal. -/
theorem exists_toDecimal_of_toInteger
    {value : Value}
    {number : Integer}
    (isNumeric : value.isNumeric = true)
    (isNear : value.toInteger .int64 = .ok number) :
    ∃ denoted, value.toDecimal = .ok denoted := by
  obtain ⟨exact, isExact, isNumber⟩ := exists_toRat?_of_toInteger isNumeric isNear
  have small : 4 * |exact| < mantissaBound := by
    have isSmall : |(number.value : Rat)| ≤ 18446744073709551615 := by
      rw [← Int.cast_abs, Int.abs_eq_natAbs]
      exact_mod_cast number.inRange.natAbs_le
    have isClose := Rounding.abs_sub_nearestEven_le exact
    rw [← isNumber] at isClose
    have isSum := abs_sub_abs_le_abs_sub exact number.value
    unfold mantissaBound
    norm_num
    linarith
  cases value with
  | integer integer =>
      obtain ⟨denoted, isDenoted, _⟩ := exists_toDecimal_of_integer integer
      exact ⟨denoted, isDenoted⟩
  | float32 float =>
      obtain ⟨denoted, reads⟩ :=
        Floating.exists_read?_toText FloatFormat.separatesDigits_binary32 isExact small
      exact ⟨denoted, decimalOfText_of_read? FloatFormat.separatesDigits_binary32 reads⟩
  | float64 float =>
      obtain ⟨denoted, reads⟩ :=
        Floating.exists_read?_toText FloatFormat.separatesDigits_binary64 isExact small
      exact ⟨denoted, decimalOfText_of_read? FloatFormat.separatesDigits_binary64 reads⟩
  | decimal denoted => exact ⟨denoted, rfl⟩
  | _ => cases isNumeric

/-- An integer, a whole decimal, or a whole float below the first whole numbers that are
no floats. -/
def IsWhole : Value → Prop
  | .integer _ => True
  | .float32 float => ∃ exact : Int, float.toRat? = some (exact : Rat) ∧ exact.natAbs < 2 ^ 24
  | .float64 float => ∃ exact : Int, float.toRat? = some (exact : Rat) ∧ exact.natAbs < 2 ^ 53
  | .decimal denoted => ∃ exact : Int, denoted.toRat = exact
  | _ => False

/-- The decimal of a whole value is its number. -/
theorem IsWhole.exists_toRat?_eq
    {value : Value}
    {denoted : Decimal}
    (isWhole : value.IsWhole)
    (isDecimal : value.toDecimal = .ok denoted) :
    ∃ exact : Int, value.toRat? = some (exact : Rat) ∧ denoted.toRat = exact := by
  cases value with
  | integer integer =>
      obtain ⟨other, isOther, isValue⟩ := exists_toDecimal_of_integer integer
      obtain rfl := Except.ok.inj (isOther.symm.trans isDecimal)
      exact ⟨integer.value, rfl, isValue⟩
  | float32 float =>
      obtain ⟨exact, isExact, small⟩ := isWhole
      exact ⟨exact, isExact, toRat_of_decimalOfText FloatFormat.separatesDigits_binary32
        (by decide) (by decide) isExact small isDecimal⟩
  | float64 float =>
      obtain ⟨exact, isExact, small⟩ := isWhole
      exact ⟨exact, isExact, toRat_of_decimalOfText FloatFormat.separatesDigits_binary64
        (by decide) (by decide) isExact small isDecimal⟩
  | decimal other =>
      obtain ⟨exact, isExact⟩ := isWhole
      cases isDecimal
      exact ⟨exact, congrArg some isExact, isExact⟩
  | _ => cases isWhole

end Value
end RowBinding
