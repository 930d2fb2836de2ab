import RowBinding.Proofs.Number.DecimalPlaces
import RowBinding.Proofs.Number.FloatTexts

/-!
# Floats at twenty-eight places

Finite floats are equal exactly if their texts write the same number. The text
reads as the decimal that is nearest to this number at twenty-eight places, or as
none if the number is too large for a decimal, and then it is whole.

A float that is not too small needs no more places than a decimal has, so its
decimal is the number that is written. Smaller floats that are written nearly
alike have the same decimal, and the smallest ones all have zero.
-/

namespace RowBinding

open Text (signedChars signedRat digitsValue)

/-! ## Bounds on shortest digits -/

namespace FloatFormat

variable {format : FloatFormat} {rank coefficient : Nat} {place : Int}

/-- The last of the shortest digits is not behind the finest place. -/
theorem IsShortest.finestPlace_le
    (isShortest : format.IsShortest rank coefficient place)
    (separates : format.SeparatesDigits)
    (positive : 0 < rank)
    (finite : rank < format.infinityRank) :
    format.finestPlace rank ≤ place := by
  obtain ⟨below, rfl⟩ := Nat.exists_eq_add_of_lt positive
  rw [Nat.zero_add] at *
  obtain ⟨count, readsBack⟩ := exists_nearestRank_eq_of_separatesDigits separates finite
  by_contra isFiner
  refine isShortest.coarsest (not_le.mp isFiner) ?_ readsBack
  rw [finestPlace]
  omega

theorem magnitude_lt_zpow (positive : 0 < rank) :
    format.magnitude rank < (10 : Rat) ^ (format.finestPlace rank + format.roundTripDigits) := by
  have isLess := Int.lt_zpow_succ_log_self (b := 10) (by norm_num) (format.magnitude rank)
  have hasDigits : 0 < format.roundTripDigits := Nat.succ_pos _
  have isPlace : format.finestPlace rank + format.roundTripDigits =
      Int.log 10 (format.magnitude rank) + 1 := by
    rw [finestPlace, decimalExponent_eq_log (format.magnitude_pos positive)]
    omega
  rw [isPlace]
  exact_mod_cast isLess

/-- The shortest digits are not many. -/
theorem IsShortest.coefficient_lt
    (isShortest : format.IsShortest rank coefficient place)
    (separates : format.SeparatesDigits)
    (positive : 0 < rank)
    (finite : rank < format.infinityRank) :
    coefficient < 2 * 10 ^ format.roundTripDigits := by
  have isLess := lt_magnitude_succ finite isShortest.readsBack
  have isTwice := format.spacing_le_magnitude positive
  have isFinest := isShortest.finestPlace_le separates positive finite
  rw [format.magnitude_succ] at isLess
  have scaled : (coefficient : Rat) * (10 : Rat) ^ place <
      2 * 10 ^ format.roundTripDigits * (10 : Rat) ^ place :=
    calc (coefficient : Rat) * (10 : Rat) ^ place
        < 2 * format.magnitude rank := by linarith
      _ ≤ 2 * (10 : Rat) ^ (format.finestPlace rank + format.roundTripDigits) := by
          have isBelow := @magnitude_lt_zpow format rank positive
          linarith
      _ ≤ 2 * (10 : Rat) ^ (place + format.roundTripDigits) := by
          have isMore := zpow_le_zpow_right₀ (show (1 : Rat) ≤ 10 by norm_num)
            (show format.finestPlace rank + format.roundTripDigits ≤
              place + format.roundTripDigits by omega)
          linarith
      _ = 2 * 10 ^ format.roundTripDigits * (10 : Rat) ^ place := by
          rw [zpow_add₀ (by norm_num), zpow_natCast]
          ring
  exact_mod_cast lt_of_mul_lt_mul_right scaled (unit_pos place).le

end FloatFormat

/-! ## What a float is written as -/

namespace Floating

variable {format : FloatFormat}

/-- The number that the text of a float denotes. -/
def written? (float : Floating format) : Option Rat :=
  let (negative, body) := Text.splitSign float.toText.toList
  (readMagnitude? body).map fun (coefficient, exponent) =>
    signedRat negative (coefficient * (10 : Rat) ^ exponent)

/--
Digits with a point between them and a sign write a finite float.

If there are digits behind the point, all digits together are not many, and no place is
behind the finest place of the float.
-/
structure IsWritten
    (float : Floating format)
    (negative : Bool)
    (rank : Nat)
    (magnitude : Rat)
    (whole fraction : List Char) : Prop where
  finite : rank < format.infinityRank
  float_eq : float = signed negative rank finite.le
  toText_eq : float.toText.toList =
    signedChars negative (FloatStyle.plain.joinPoint whole fraction)
  writes : Scientific.Writes magnitude whole fraction
  readsBack : format.nearestRank magnitude = rank
  zero : rank = 0 → magnitude = 0
  few : fraction = [] ∨ digitsValue (whole ++ fraction) < 2 * 10 ^ format.roundTripDigits
  places : fraction = [] ∨ (fraction.length : Int) ≤ -format.finestPlace rank

/-- Every finite float is written so. -/
theorem exists_isWritten
    (separates : format.SeparatesDigits)
    {float : Floating format}
    {value : Rat}
    (isValue : float.toRat? = some value) :
    ∃ negative rank magnitude whole fraction,
      float.IsWritten negative rank magnitude whole fraction := by
  obtain ⟨negative, rank, finite, rfl, _⟩ := toRat?_eq_some isValue
  rcases Nat.eq_zero_or_pos rank with rfl | positive
  · refine ⟨negative, 0, 0, ['0'], [], finite, rfl, ?_, ⟨nofun, ?_, nofun, ?_⟩,
      format.nearestRank_of_nonpos le_rfl, fun _ => rfl, .inl rfl, .inl rfl⟩
    · rw [toText, text, if_neg finite.ne, if_pos rfl, String.toList_ofList]
      rfl
    · simp
    · rw [zero_mul]
      rfl
  · obtain ⟨coefficient, place, whole, fraction, isShortest, writes, isText⟩ :=
      exists_writes_toText separates positive finite negative
    refine ⟨negative, rank, _, whole, fraction, finite, rfl, isText, writes,
      isShortest.readsBack, fun isZero => absurd isZero positive.ne', ?_, ?_⟩
    · refine or_iff_not_imp_left.mpr fun hasFraction => ?_
      have isLess := isShortest.coefficient_lt separates positive finite
      have atMost := writes.digitsValue_le hasFraction
      omega
    · refine or_iff_not_imp_left.mpr fun hasFraction => ?_
      have isFinest := isShortest.finestPlace_le separates positive finite
      have isShort := writes.length_fraction_le hasFraction
      omega

section Written

variable
  {float other : Floating format}
  {negative : Bool}
  {rank : Nat}
  {magnitude : Rat}
  {whole fraction : List Char}

theorem IsWritten.eq_div (written : float.IsWritten negative rank magnitude whole fraction) :
    magnitude = digitsValue (whole ++ fraction) / 10 ^ fraction.length := by
  rw [written.writes.value_eq, zpow_natCast, mul_div_assoc, div_self (by positivity), mul_one]

theorem IsWritten.nonneg (written : float.IsWritten negative rank magnitude whole fraction) :
    0 ≤ magnitude := by
  rw [written.eq_div]
  positivity

theorem IsWritten.written?_eq
    (written : float.IsWritten negative rank magnitude whole fraction) :
    float.written? = some (signedRat negative magnitude) := by
  have reads := readMagnitude?_joinPoint written.writes.nonempty written.writes.areDigits
  obtain ⟨first, rest, isBody, isDigit⟩ :=
    Scientific.exists_joinPoint_eq_cons written.writes.nonempty written.writes.areDigits
  rw [isBody] at reads
  rw [written?, written.toText_eq, isBody, Text.splitSign_signedChars_of_isDigit isDigit]
  dsimp only
  rw [reads, Option.map_some, written.eq_div, zpow_neg, zpow_natCast, div_eq_mul_inv]

/-! ## Equal floats -/

theorem IsWritten.rank_eq_zero
    (written : float.IsWritten negative rank magnitude whole fraction)
    (isZero : magnitude = 0) :
    rank = 0 := by
  rw [← written.readsBack, isZero]
  exact format.nearestRank_of_nonpos le_rfl

/-- Finite floats are equal exactly if they are written as the same number. -/
theorem equal_iff_written?
    (separates : format.SeparatesDigits)
    {value otherValue : Rat}
    (isValue : float.toRat? = some value)
    (isOtherValue : other.toRat? = some otherValue) :
    float.equal other = true ↔ float.written? = other.written? := by
  obtain ⟨negative, rank, magnitude, _, _, written⟩ := exists_isWritten separates isValue
  obtain ⟨otherNegative, otherRank, otherMagnitude, _, _, otherWritten⟩ :=
    exists_isWritten separates isOtherValue
  rw [written.written?_eq, otherWritten.written?_eq, Option.some_inj,
    Text.signedRat_eq_iff written.nonneg otherWritten.nonneg]
  have isEqual : float.equal other = true ↔
      rank = otherRank ∧ (negative = otherNegative ∨ rank = 0) := by
    rw [written.float_eq, otherWritten.float_eq, equal, Bool.and_eq_true, Bool.or_eq_true,
      beq_iff_eq, beq_iff_eq, beq_iff_eq]
  rw [isEqual]
  constructor
  · rintro ⟨rfl, rfl | isZero⟩
    · have sameFloat : float = other := written.float_eq.trans otherWritten.float_eq.symm
      subst sameFloat
      have sameNumber := written.written?_eq.symm.trans otherWritten.written?_eq
      rw [Option.some_inj, Text.signedRat_eq_iff written.nonneg otherWritten.nonneg] at sameNumber
      exact sameNumber
    · rw [written.zero isZero, otherWritten.zero isZero]
      exact ⟨rfl, .inr rfl⟩
  · rintro ⟨rfl, sameSign⟩
    exact ⟨written.readsBack.symm.trans otherWritten.readsBack,
      sameSign.imp_right written.rank_eq_zero⟩

/-! ## The decimal of a float -/

/-- How many units of the last place of a decimal are nearest to what a float is written
as. -/
def units? (float : Floating format) : Option Int :=
  float.written?.map Decimal.unitsOf

/-- The text of a finite float reads as the nearest decimal of twenty-eight places to the
number that it writes, unless this is whole and too large. -/
theorem read?_toText_cases
    (separates : format.SeparatesDigits)
    (narrow : 2 * 10 ^ format.roundTripDigits < mantissaBound)
    {value : Rat}
    (isValue : float.toRat? = some value) :
    ∃ units, float.units? = some units ∧
      ((∃ decimal, Decimal.read? float.toText.toList = some decimal ∧
          decimal.toRat = Decimal.ofUnits units) ∨
        (Decimal.read? float.toText.toList = none ∧
          float.written? = some (Decimal.ofUnits units) ∧
            mantissaBound ≤ |Decimal.ofUnits units|)) := by
  obtain ⟨negative, rank, magnitude, whole, fraction, written⟩ :=
    exists_isWritten separates isValue
  refine ⟨Decimal.unitsOf (signedRat negative magnitude), ?_, ?_⟩
  · rw [units?, written.written?_eq, Option.map_some]
  rw [written.written?_eq, written.toText_eq, Decimal.ofUnits_unitsOf_signedRat, written.eq_div]
  rcases Nat.lt_or_ge (digitsValue (whole ++ fraction)) mantissaBound with fits | large
  · have spare : fraction = [] ∨ digitsValue (whole ++ fraction) + 1 < mantissaBound :=
      written.few.imp_right fun isLess => by omega
    obtain ⟨decimal, reads, isDecimal⟩ := Decimal.exists_readPlain?_of_fits
      written.writes.nonempty written.writes.areDigits fits spare negative
    exact .inl ⟨decimal, by rw [Decimal.read?, reads], isDecimal⟩
  · obtain rfl : fraction = [] := written.few.resolve_right (by omega)
    obtain ⟨units, isUnits⟩ :=
      Decimal.exists_eq_ofUnits (digitsValue (whole ++ [])) (Nat.zero_le greatestScale)
    rw [List.length_nil, isUnits, Decimal.unitsOf_ofUnits, ← isUnits, pow_zero, div_one,
      Text.abs_signedRat (Nat.cast_nonneg _)]
    rw [List.append_nil] at large ⊢
    refine .inr ⟨?_, rfl, by exact_mod_cast large⟩
    exact Decimal.read?_eq_none_of_large written.writes.nonempty
      (fun digit member => written.writes.areDigits digit (List.mem_append_left _ member))
      large negative

/-! ## Floats that are not small -/

/-- A float other than zero that is so small that it may have more places than a decimal. -/
def IsTiny (float : Floating format) : Prop :=
  ∃ value, float.toRat? = some value ∧ value ≠ 0 ∧
    |value| < (10 : Rat) ^ ((format.roundTripDigits : Int) - 1 - greatestScale)

theorem IsWritten.length_fraction_le
    (written : float.IsWritten negative rank magnitude whole fraction)
    (notTiny : ¬ float.IsTiny) :
    fraction.length ≤ greatestScale := by
  rcases written.places with rfl | isShort
  · exact Nat.zero_le _
  rcases Nat.eq_zero_or_pos rank with isZero | positive
  · have writes := written.writes
    rw [written.zero isZero, ← Nat.cast_zero] at writes
    rw [writes.fraction_eq_nil]
    exact Nat.zero_le _
  · have magnitudePositive := format.magnitude_pos positive
    have isValue : float.toRat? = some (signedRat negative (format.magnitude rank)) := by
      rw [written.float_eq, toRat?, if_neg written.finite.ne, signedRat]
      split_ifs <;> rfl
    have isMagnitude : |signedRat negative (format.magnitude rank)| = format.magnitude rank :=
      abs_eq_magnitude rfl
    have isLarge : (10 : Rat) ^ ((format.roundTripDigits : Int) - 1 - greatestScale) ≤
        format.magnitude rank := by
      by_contra isSmall
      refine notTiny ⟨_, isValue, fun isZero => ?_, ?_⟩
      · rw [isZero, abs_zero] at isMagnitude
        exact magnitudePositive.ne isMagnitude
      · rwa [isMagnitude, ← not_le]
    have isLeading := (Int.zpow_le_iff_le_log (b := 10) (by norm_num) magnitudePositive).mp
      (by rwa [Nat.cast_ofNat])
    have hasDigits : 0 < format.roundTripDigits := Nat.succ_pos _
    rw [FloatFormat.finestPlace, decimalExponent_eq_log magnitudePositive] at isShort
    omega

/-- Finite floats that are not tiny are written as whole numbers of units. -/
theorem exists_written?_eq_ofUnits
    (separates : format.SeparatesDigits)
    {value : Rat}
    (isValue : float.toRat? = some value)
    (notTiny : ¬ float.IsTiny) :
    ∃ units, float.units? = some units ∧ float.written? = some (Decimal.ofUnits units) := by
  obtain ⟨negative, rank, magnitude, whole, fraction, written⟩ :=
    exists_isWritten separates isValue
  obtain ⟨units, isUnits⟩ := Decimal.exists_eq_ofUnits (digitsValue (whole ++ fraction))
    (written.length_fraction_le notTiny)
  refine ⟨Decimal.unitsOf (signedRat negative magnitude), ?_, ?_⟩
  · rw [units?, written.written?_eq, Option.map_some]
  · rw [written.written?_eq, Decimal.ofUnits_unitsOf_signedRat, written.eq_div, isUnits,
      Decimal.unitsOf_ofUnits]

end Written

end Floating
end RowBinding
