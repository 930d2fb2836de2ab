import RowBinding.Proofs.Number.Midpoints
import RowBinding.Proofs.Number.Numerals
import RowBinding.Proofs.Number.TwofoldRounding
import RowBinding.Proofs.Text.Parts

/-!
# Texts as floats

A number written in full reads as the float nearest to it. So the text of a
float of any format reads as the float nearest to its shortest digits, which in
the format of the float is the float itself.

A number beyond four hundred places is not worked out. As the floats of the
format end before, this makes no difference.
-/

namespace RowBinding
namespace FloatFormat

/-- No number beyond four hundred places is rounded to a positive finite float. -/
structure EndsBeforePlaces (format : FloatFormat) : Prop where
  least : (10 : Rat) ^ (-401 : Int) ≤ format.midpoint 0
  greatest : format.magnitude format.infinityRank ≤ (10 : Rat) ^ (400 : Int)

theorem endsBeforePlaces_binary64 : binary64.EndsBeforePlaces where
  least := by decide +kernel
  greatest := by decide +kernel

section Places

variable {format : FloatFormat} {coefficient : Nat} {exponent : Int}

theorem EndsBeforePlaces.nearestRank_eq_zero
    (ends : format.EndsBeforePlaces)
    (small : decimalLength coefficient + exponent < -400) :
    format.nearestRank (coefficient * (10 : Rat) ^ exponent) = 0 := by
  have isLess : (coefficient : Rat) < (10 : Rat) ^ (decimalLength coefficient : Int) := by
    rw [decimalLength_eq, zpow_natCast]
    exact_mod_cast Nat.lt_pow_succ_log_self (by norm_num) coefficient
  refine Nat.le_zero.mp (nearestRank_le_of_lt_midpoint ?_)
  calc (coefficient : Rat) * (10 : Rat) ^ exponent
      < (10 : Rat) ^ (decimalLength coefficient : Int) * (10 : Rat) ^ exponent :=
        mul_lt_mul_of_pos_right isLess (unit_pos exponent)
    _ = (10 : Rat) ^ (decimalLength coefficient + exponent) :=
        (zpow_add₀ (by norm_num) _ _).symm
    _ ≤ (10 : Rat) ^ (-401 : Int) := zpow_le_zpow_right₀ (by norm_num) (by omega)
    _ ≤ format.midpoint 0 := ends.least

theorem EndsBeforePlaces.nearestRank_eq_infinityRank
    (ends : format.EndsBeforePlaces)
    (nonzero : coefficient ≠ 0)
    (large : 400 < decimalLength coefficient + exponent) :
    format.nearestRank (coefficient * (10 : Rat) ^ exponent) = format.infinityRank := by
  have isLeast : (10 : Rat) ^ (Nat.log 10 coefficient : Int) ≤ coefficient := by
    rw [zpow_natCast]
    exact_mod_cast Nat.pow_log_le_self 10 nonzero
  rw [decimalLength_eq] at large
  have isBeyond : format.magnitude format.infinityRank ≤ coefficient * (10 : Rat) ^ exponent := by
    calc format.magnitude format.infinityRank
        ≤ (10 : Rat) ^ (400 : Int) := ends.greatest
      _ ≤ (10 : Rat) ^ (Nat.log 10 coefficient + exponent) :=
          zpow_le_zpow_right₀ (by norm_num) (by omega)
      _ = (10 : Rat) ^ (Nat.log 10 coefficient : Int) * (10 : Rat) ^ exponent :=
          zpow_add₀ (by norm_num) _ _
      _ ≤ coefficient * (10 : Rat) ^ exponent :=
          mul_le_mul_of_nonneg_right isLeast (unit_pos exponent).le
  refine le_antisymm (format.nearestRank_le _) ?_
  exact (format.nearestRank_magnitude le_rfl).symm.trans_le (format.nearestRank_mono isBeyond)

end Places

end FloatFormat

namespace Floating

variable {format : FloatFormat}

theorem round_eq_signed
    {negative : Bool}
    {value : Rat}
    {rank : Nat}
    (bounded : rank ≤ format.infinityRank)
    (isRank : format.nearestRank value = rank) :
    (round negative value : Floating format) = signed negative rank bounded := by
  subst isRank
  rfl

/-- A decimal number is always rounded, also where its power of ten is not worked out. -/
theorem ofDecimal_eq_round
    (ends : format.EndsBeforePlaces)
    (negative : Bool)
    (coefficient : Nat)
    (exponent : Int) :
    (ofDecimal negative coefficient exponent : Floating format) =
      round negative (coefficient * (10 : Rat) ^ exponent) := by
  unfold ofDecimal
  dsimp only
  split_ifs with isZero isLarge
  · refine (round_eq_signed (Nat.zero_le _) ?_).symm
    rw [Bool.or_eq_true, decide_eq_true_eq, decide_eq_true_eq] at isZero
    rcases isZero with rfl | isSmall
    · rw [Nat.cast_zero, zero_mul, format.nearestRank_of_nonpos le_rfl]
    · exact ends.nearestRank_eq_zero isSmall
  · have nonzero : coefficient ≠ 0 := fun isNothing => isZero (by simp [isNothing])
    exact (round_eq_signed le_rfl (ends.nearestRank_eq_infinityRank nonzero isLarge)).symm
  · rfl

/-! ## Numbers written in full -/

section Written

variable {whole fraction : List Char} {value : Rat}

/-- Digits with a point between them are read as one number with as many places as stand
behind the point. -/
theorem readMagnitude?_joinPoint
    (nonempty : whole ≠ [])
    (areDigits : ∀ digit ∈ whole ++ fraction, digit.isDigit = true) :
    readMagnitude? (FloatStyle.plain.joinPoint whole fraction) =
      some (Text.digitsValue (whole ++ fraction), -(fraction.length : Int)) := by
  have areWhole : ∀ digit ∈ whole, digit.isDigit = true := fun digit member =>
    areDigits digit (List.mem_append_left fraction member)
  have areFraction : ∀ digit ∈ fraction, digit.isDigit = true := fun digit member =>
    areDigits digit (List.mem_append_right whole member)
  have spansWhole : Text.spanDigits (whole ++ '.' :: fraction) = (whole, '.' :: fraction) := by
    rw [Text.spanDigits, List.takeWhile_append_of_pos areWhole,
      List.dropWhile_append_of_pos areWhole]
    simp
  have spansAll {digits : List Char} (areAll : ∀ digit ∈ digits, digit.isDigit = true) :
      Text.spanDigits digits = (digits, []) := by
    rw [Text.spanDigits, List.takeWhile_eq_self_iff.mpr areAll,
      List.dropWhile_eq_nil_iff.mpr areAll]
  have hasDigits : (whole.isEmpty && fraction.isEmpty) = false := by
    rw [List.isEmpty_eq_false_iff.mpr nonempty, Bool.false_and]
  unfold FloatStyle.joinPoint
  split_ifs with noFraction keepsPoint
  · cases keepsPoint
  · obtain rfl := List.isEmpty_iff.mp noFraction
    simp [readMagnitude?, spansAll areWhole, nonempty, readExponent?]
  · simp [readMagnitude?, spansWhole, spansAll areFraction, hasDigits, readExponent?]

/-- A number written in full reads as the float nearest to it. -/
theorem read?_signedChars
    (ends : format.EndsBeforePlaces)
    (writes : Scientific.Writes value whole fraction)
    (negative : Bool) :
    (read? (Text.signedChars negative (FloatStyle.plain.joinPoint whole fraction)) :
      Option (Floating format)) = some (round negative value) := by
  have isValue : (Text.digitsValue (whole ++ fraction) : Rat) *
      (10 : Rat) ^ (-(fraction.length : Int)) = value := by
    rw [writes.value_eq, mul_assoc, ← zpow_add₀ (by norm_num), add_neg_cancel, zpow_zero, mul_one]
  have isNumeral : Text.IsNumeral (FloatStyle.plain.joinPoint whole fraction) :=
    fun char member => .inr (Scientific.mem_joinPoint writes.areDigits member)
  have reads := readMagnitude?_joinPoint writes.nonempty writes.areDigits
  obtain ⟨first, rest, isBody, isDigit⟩ :=
    Scientific.exists_joinPoint_eq_cons writes.nonempty writes.areDigits
  rw [isBody] at isNumeral reads ⊢
  have notNamed (name : String) (letter : Char)
      (member : letter ∈ name.toList)
      (noNumeral : ¬(letter = '-' ∨ letter = '.' ∨ letter.isDigit = true)) :
      (String.ofList ((first :: rest).map Char.toLower) == name) = false := by
    rw [isNumeral.map_toLower, beq_eq_false_iff_ne]
    rintro rfl
    rw [String.toList_ofList] at member
    exact noNumeral (isNumeral letter member)
  rw [read?, Text.splitSign_signedChars_of_isDigit isDigit]
  dsimp only
  rw [notNamed "inf" 'i' (by decide) (by decide),
    notNamed "infinity" 'i' (by decide) (by decide),
    notNamed "nan" 'n' (by decide) (by decide), reads]
  simp only [Bool.or_self, Bool.false_eq_true, if_false, Option.map_some,
    ofDecimal_eq_round ends, isValue]

end Written

/-! ## Texts of floats -/

section Texts

variable {source : FloatFormat}

/-- The text of a positive finite float reads as the float that is nearest to its shortest
digits. -/
theorem exists_read?_toText_signed
    (ends : format.EndsBeforePlaces)
    (separates : source.SeparatesDigits)
    {rank : Nat}
    (positive : 0 < rank)
    (finite : rank < source.infinityRank)
    (negative : Bool) :
    ∃ coefficient place,
      source.IsShortest rank coefficient place ∧
        (read? (signed negative rank finite.le : Floating source).toText.toList :
          Option (Floating format)) =
            some (round negative (coefficient * (10 : Rat) ^ place)) := by
  obtain ⟨coefficient, place, whole, fraction, isShortest, writes, isText⟩ :=
    exists_writes_toText separates positive finite negative
  exact ⟨coefficient, place, isShortest, by rw [isText, read?_signedChars ends writes]⟩

/-- A zero of any format reads as the zero with its sign. -/
theorem read?_toText_zero (negative : Bool) (positive : 0 < source.infinityRank) :
    (read? (zero negative : Floating source).toText.toList : Option (Floating format)) =
      some (zero negative) := by
  rw [toText, zero, text, if_neg positive.ne, if_pos rfl, String.toList_ofList]
  cases negative <;> rfl

/-- An infinity of any format reads as the infinity with its sign. -/
theorem read?_toText_infinity (negative : Bool) :
    (read? (infinity negative : Floating source).toText.toList : Option (Floating format)) =
      some (infinity negative) := by
  rw [toText, infinity, text, if_pos rfl, String.toList_ofList]
  cases negative <;> rfl

theorem read?_toText_nan :
    (read? (nan : Floating source).toText.toList : Option (Floating format)) = some nan := by
  rw [toText, text]
  rfl

end Texts

/-- The text of a float reads as the float in its own format. -/
theorem read?_toText
    (ends : format.EndsBeforePlaces)
    (separates : format.SeparatesDigits)
    (float : Floating format) :
    read? float.toText.toList = some float := by
  cases float with
  | nan => exact read?_toText_nan
  | signed negative rank bounded =>
      rcases bounded.eq_or_lt with rfl | finite
      · exact read?_toText_infinity negative
      rcases Nat.eq_zero_or_pos rank with rfl | positive
      · exact read?_toText_zero negative finite
      · obtain ⟨coefficient, place, isShortest, reads⟩ :=
          exists_read?_toText_signed ends separates positive finite negative
        rw [reads, round_eq_signed bounded isShortest.readsBack]

end Floating
end RowBinding
