import Mathlib.Data.List.TakeWhile
import RowBinding.Number.FloatingText
import RowBinding.Proofs.Number.Shortest
import RowBinding.Proofs.Text.Digits

/-!
# Numbers written in full

The digits of a coefficient at a place, set before and behind a point, write the
coefficient times the power of ten of the place. No zero ends the digits behind
the point, so there are none of these exactly for a natural number.
-/

namespace RowBinding
namespace Scientific

/-- Digits before and behind a point write a number, with no zero at their end. -/
structure Writes (value : Rat) (whole fraction : List Char) : Prop where
  nonempty : whole ≠ []
  areDigits : ∀ digit ∈ whole ++ fraction, digit.isDigit = true
  noZero : fraction.getLast? ≠ some '0'
  value_eq : (Text.digitsValue (whole ++ fraction) : Rat) =
    value * (10 : Rat) ^ (fraction.length : Int)

theorem exists_eq_append_replicate (digits : List Char) :
    ∃ kept zeros, (digits.reverse.dropWhile (· == '0')).reverse = kept ∧
      digits = kept ++ List.replicate zeros '0' ∧ kept.getLast? ≠ some '0' := by
  refine ⟨_, (digits.reverse.takeWhile (· == '0')).length, rfl, ?_, ?_⟩
  · have areZeros : digits.reverse.takeWhile (· == '0') =
        List.replicate (digits.reverse.takeWhile (· == '0')).length '0' :=
      List.eq_replicate_iff.mpr ⟨rfl, fun char member => by
        simpa using List.mem_takeWhile_imp member⟩
    rw [← List.reverse_replicate, ← areZeros, ← List.reverse_append,
      List.takeWhile_append_dropWhile, List.reverse_reverse]
  · rw [List.getLast?_reverse]
    intro isZero
    have notZero := List.head?_dropWhile_not (· == '0') digits.reverse
    rw [isZero] at notZero
    cases notZero

/-- The digits of a coefficient end with no zero, and their last place is as much higher
as zeros have been left out. -/
theorem exists_ofCoefficient_eq
    {coefficient : Nat}
    (positive : 0 < coefficient)
    (place : Int) :
    ∃ kept last, ofCoefficient coefficient place = ⟨kept, last + kept.length - 1⟩ ∧
      kept ≠ [] ∧ (∀ digit ∈ kept, digit.isDigit = true) ∧ kept.getLast? ≠ some '0' ∧
        (Text.digitsValue kept : Rat) * (10 : Rat) ^ last = coefficient * (10 : Rat) ^ place := by
  obtain ⟨kept, zeros, isKept, isDigits, noZero⟩ :=
    exists_eq_append_replicate (Text.decimalDigits coefficient)
  have isCoefficient : coefficient = Text.digitsValue kept * 10 ^ zeros := by
    rw [← Text.digitsValue_append_replicate, ← isDigits, Text.digitsValue_decimalDigits]
  have isLength : (Text.decimalDigits coefficient).length = kept.length + zeros := by
    rw [isDigits, List.length_append, List.length_replicate]
  refine ⟨kept, place + zeros, ?_, ?_, fun digit member => ?_, noZero, ?_⟩
  · rw [ofCoefficient, isKept, isLength]
    push_cast
    congr 1
    ring
  · rintro rfl
    rw [isCoefficient] at positive
    simp [Text.digitsValue] at positive
  · exact Text.isDigit_of_mem_decimalDigits (isDigits ▸ List.mem_append_left _ member)
  · rw [isCoefficient, zpow_add₀ (by norm_num), zpow_natCast]
    push_cast
    ring

section Positional

variable {kept : List Char}

/-- Digits whose first one stands behind the point. -/
theorem writes_of_neg
    (nonempty : kept ≠ [])
    (areDigits : ∀ digit ∈ kept, digit.isDigit = true)
    (noZero : kept.getLast? ≠ some '0')
    {last : Int}
    (isBehind : last + kept.length - 1 < 0) :
    Writes (Text.digitsValue kept * (10 : Rat) ^ last) ['0']
      (List.replicate (-(last + kept.length - 1) - 1).toNat '0' ++ kept) := by
  have isLength : ((List.replicate (-(last + kept.length - 1) - 1).toNat '0' ++
      kept).length : Int) = -last := by
    rw [List.length_append, List.length_replicate]
    omega
  refine ⟨List.cons_ne_nil _ _, fun digit member => ?_, ?_, ?_⟩
  · rw [List.mem_append, List.mem_append, List.mem_singleton, List.mem_replicate] at member
    rcases member with rfl | ⟨_, rfl⟩ | member
    · rfl
    · rfl
    · exact areDigits digit member
  · rw [List.getLast?_append_of_ne_nil _ nonempty]
    exact noZero
  · rw [isLength, mul_assoc, ← zpow_add₀ (by norm_num), add_neg_cancel, zpow_zero, mul_one,
      ← List.replicate_one, Text.digitsValue_replicate_append,
      Text.digitsValue_replicate_append]

/-- Digits whose first one stands before the point. -/
theorem writes_of_nonneg
    (nonempty : kept ≠ [])
    (areDigits : ∀ digit ∈ kept, digit.isDigit = true)
    (noZero : kept.getLast? ≠ some '0')
    {last : Int}
    {width : Nat}
    (isWidth : (width : Int) = last + kept.length)
    (positive : 0 < width) :
    Writes (Text.digitsValue kept * (10 : Rat) ^ last)
      (kept.take width ++ List.replicate (width - kept.length) '0') (kept.drop width) := by
  rcases Nat.lt_or_ge width kept.length with isShort | isLong
  · have isWhole : kept.take width ++ List.replicate (width - kept.length) '0' ++
        kept.drop width = kept := by
      rw [Nat.sub_eq_zero_of_le isShort.le, List.replicate_zero, List.append_nil,
        List.take_append_drop]
    have isLength : ((kept.drop width).length : Int) = -last := by
      rw [List.length_drop]
      omega
    have isTaken : (kept.take width).length = width := List.length_take_of_le isShort.le
    refine ⟨fun isNil => ?_, isWhole.symm ▸ areDigits, ?_, ?_⟩
    · rw [(List.append_eq_nil_iff.mp isNil).1, List.length_nil] at isTaken
      omega
    · rw [List.getLast?_drop, if_neg (not_le.mpr isShort)]
      exact noZero
    · rw [isWhole, isLength, mul_assoc, ← zpow_add₀ (by norm_num), add_neg_cancel, zpow_zero,
        mul_one]
  · have isPlace : ((width - kept.length : Nat) : Int) = last := by omega
    rw [List.drop_of_length_le isLong, List.take_of_length_le isLong]
    refine ⟨fun isNil => nonempty (List.append_eq_nil_iff.mp isNil).1, fun digit member => ?_,
      nofun, ?_⟩
    · rw [List.append_nil, List.mem_append, List.mem_replicate] at member
      rcases member with member | ⟨_, rfl⟩
      · exact areDigits digit member
      · rfl
    · rw [List.append_nil, Text.digitsValue_append_replicate, ← isPlace, zpow_natCast]
      simp

theorem writes_positional
    {coefficient : Nat}
    (positive : 0 < coefficient)
    (place : Int) :
    Writes (coefficient * (10 : Rat) ^ place) (ofCoefficient coefficient place).positional.1
      (ofCoefficient coefficient place).positional.2 := by
  obtain ⟨kept, last, isKept, nonempty, areDigits, noZero, isValue⟩ :=
    exists_ofCoefficient_eq positive place
  rw [← isValue, isKept, positional]
  dsimp only
  split_ifs with isBehind
  · exact writes_of_neg nonempty areDigits noZero isBehind
  · exact writes_of_nonneg nonempty areDigits noZero (by omega) (by omega)

end Positional

/-! ## Natural numbers -/

section Natural

variable {value : Rat} {whole fraction : List Char}

theorem Writes.eq_digitsValue (writes : Writes value whole []) :
    value = Text.digitsValue whole := by
  have isValue := writes.value_eq
  rw [List.append_nil] at isValue
  simpa using isValue.symm

/-- The digits before the point denote no more than the number. -/
theorem Writes.digitsValue_whole_le (writes : Writes value whole fraction) :
    (Text.digitsValue whole : Rat) ≤ value := by
  have unitPositive : (0 : Rat) < (10 : Rat) ^ (fraction.length : Int) :=
    zpow_pos (by norm_num) _
  refine le_of_mul_le_mul_right ?_ unitPositive
  rw [← writes.value_eq, Text.digitsValue_append, zpow_natCast]
  push_cast
  exact le_add_of_nonneg_right (Nat.cast_nonneg _)

/-- A multiple of a power of ten is written with no places behind it. -/
theorem Writes.length_fraction_le
    {coefficient : Nat}
    {place : Int}
    (writes : Writes (coefficient * (10 : Rat) ^ place) whole fraction)
    (hasFraction : fraction ≠ []) :
    (fraction.length : Int) ≤ -place := by
  by_contra isLonger
  obtain ⟨more, isMore⟩ : ∃ more : Nat, place + fraction.length = more + 1 :=
    ⟨(place + fraction.length - 1).toNat, by omega⟩
  have isProduct : Text.digitsValue (whole ++ fraction) = coefficient * 10 ^ (more + 1) := by
    have isValue := writes.value_eq
    rw [mul_assoc, ← zpow_add₀ (by norm_num), isMore] at isValue
    exact_mod_cast isValue
  have isMultiple : 10 ∣ Text.digitsValue (whole ++ fraction) :=
    isProduct ▸ (dvd_pow_self 10 (Nat.succ_ne_zero more)).mul_left coefficient
  have endsWithZero := Text.getLast?_of_dvd_digitsValue writes.areDigits
    (List.append_ne_nil_of_right_ne_nil _ hasFraction) isMultiple
  rw [List.getLast?_append_of_ne_nil _ hasFraction] at endsWithZero
  exact writes.noZero endsWithZero

theorem Writes.digitsValue_le
    {coefficient : Nat}
    {place : Int}
    (writes : Writes (coefficient * (10 : Rat) ^ place) whole fraction)
    (hasFraction : fraction ≠ []) :
    Text.digitsValue (whole ++ fraction) ≤ coefficient := by
  have isShort := writes.length_fraction_le hasFraction
  have isValue := writes.value_eq
  rw [mul_assoc, ← zpow_add₀ (by norm_num)] at isValue
  have atMostOne : (10 : Rat) ^ (place + fraction.length) ≤ 1 :=
    zpow_le_one_of_nonpos₀ (by norm_num) (by omega)
  have isLess := mul_le_of_le_one_right (Nat.cast_nonneg (α := Rat) coefficient) atMostOne
  rw [← isValue] at isLess
  exact_mod_cast isLess

/-- A natural number is written with no digits behind the point. -/
theorem Writes.fraction_eq_nil
    {number : Nat}
    (writes : Writes (number : Rat) whole fraction) :
    fraction = [] := by
  by_contra hasFraction
  rw [← mul_one (number : Rat), ← zpow_zero (10 : Rat)] at writes
  have isShort := writes.length_fraction_le hasFraction
  have isPositive := List.length_pos_iff.mpr hasFraction
  omega

/-- Digits with a point between them begin with a digit. -/
theorem exists_joinPoint_eq_cons
    (nonempty : whole ≠ [])
    (areDigits : ∀ digit ∈ whole ++ fraction, digit.isDigit = true) :
    ∃ first rest,
      FloatStyle.plain.joinPoint whole fraction = first :: rest ∧ first.isDigit = true := by
  obtain ⟨first, later, rfl⟩ := List.exists_cons_of_ne_nil nonempty
  have isDigit := areDigits first List.mem_cons_self
  unfold FloatStyle.joinPoint
  split_ifs
  · exact ⟨first, _, rfl, isDigit⟩
  · exact ⟨first, _, rfl, isDigit⟩
  · exact ⟨first, _, rfl, isDigit⟩

/-- Digits with a point between them have no other characters. -/
theorem mem_joinPoint
    (areDigits : ∀ digit ∈ whole ++ fraction, digit.isDigit = true)
    {char : Char}
    (member : char ∈ FloatStyle.plain.joinPoint whole fraction) :
    char = '.' ∨ char.isDigit = true := by
  unfold FloatStyle.joinPoint at member
  split_ifs at member with noFraction keepsPoint
  · cases keepsPoint
  · exact .inr (areDigits char (List.mem_append_left _ member))
  · rcases List.mem_append.mp member with isWhole | isRest
    · exact .inr (areDigits char (List.mem_append_left _ isWhole))
    · rcases List.mem_cons.mp isRest with isPoint | isFraction
      · exact .inl isPoint
      · exact .inr (areDigits char (List.mem_append_right _ isFraction))

/-- A number in full has digits, at most a point, and at most a sign. -/
theorem Writes.mem_signedChars
    (writes : Writes value whole fraction)
    {negative : Bool}
    {char : Char}
    (member : char ∈ Text.signedChars negative (FloatStyle.plain.joinPoint whole fraction)) :
    char = '-' ∨ char = '.' ∨ char.isDigit = true := by
  cases negative with
  | false => exact .inr (mem_joinPoint writes.areDigits member)
  | true =>
      rcases List.mem_cons.mp member with isSign | isRest
      · exact .inl isSign
      · exact .inr (mem_joinPoint writes.areDigits isRest)

end Natural

end Scientific

namespace Floating

/-! ## The text of a float -/

variable {format : FloatFormat} {rank : Nat}

theorem toList_toText_signed
    (positive : 0 < rank)
    (finite : rank < format.infinityRank)
    (negative : Bool) :
    (signed negative rank finite.le).toText.toList =
      Text.signedChars negative (FloatStyle.plain.join (format.shortest .greater rank)) := by
  rw [toText, text, if_neg finite.ne, if_neg positive.ne', String.toList_ofList]
  rfl

/-- A float that is not finite is written with its name. -/
theorem toText_of_toRat?_eq_none
    {float : Floating format}
    (notFinite : float.toRat? = none) :
    float.toText = "NaN" ∨ float.toText = "inf" ∨ float.toText = "-inf" := by
  cases float with
  | nan => exact .inl rfl
  | signed negative rank bounded =>
      rw [toRat?] at notFinite
      split_ifs at notFinite with isInfinite
      rw [toText, text, if_pos isInfinite]
      cases negative with
      | false => exact .inr (.inl rfl)
      | true => exact .inr (.inr rfl)

/-- The text of a positive finite float writes its shortest digits in full. -/
theorem exists_writes_toText
    (separates : format.SeparatesDigits)
    (positive : 0 < rank)
    (finite : rank < format.infinityRank)
    (negative : Bool) :
    ∃ coefficient place whole fraction,
      format.IsShortest rank coefficient place ∧
        Scientific.Writes (coefficient * (10 : Rat) ^ place) whole fraction ∧
        (signed negative rank finite.le).toText.toList =
          Text.signedChars negative (FloatStyle.plain.joinPoint whole fraction) := by
  obtain ⟨coefficient, place, isDigits, isShortest⟩ :=
    FloatFormat.exists_isShortest separates positive finite .greater
  have coefficientPositive : 0 < coefficient := by
    have valuePositive := FloatFormat.pos_of_nearestRank positive isShortest.readsBack
    exact Nat.cast_pos.mp (pos_of_mul_pos_left valuePositive (FloatFormat.unit_pos place).le)
  refine ⟨coefficient, place, _, _, isShortest,
    Scientific.writes_positional coefficientPositive place, ?_⟩
  rw [toList_toText_signed positive finite, isDigits]
  rfl

end Floating
end RowBinding
