import RowBinding.Conversion
import RowBinding.Proofs.Number.WholeFloats

/-!
# Numerals

The text of a decimal and of a finite float is a numeral: it has digits, a point
and a minus, and no other characters. Nothing is trimmed off a numeral, and no
numeral says whether something is true.
-/

namespace RowBinding
namespace Text

/-- A text has no other characters than digits, points and minus signs. -/
def IsNumeral (chars : List Char) : Prop :=
  ∀ char ∈ chars, char = '-' ∨ char = '.' ∨ char.isDigit = true

section Numeral

variable {chars : List Char}

theorem isNumeral_of_areDigits (areDigits : ∀ char ∈ chars, char.isDigit = true) :
    IsNumeral chars :=
  fun char member => .inr (.inr (areDigits char member))

theorem IsNumeral.signedChars
    (isNumeral : IsNumeral chars)
    (negative : Bool) :
    IsNumeral (signedChars negative chars) := by
  cases negative with
  | false => exact isNumeral
  | true =>
      intro char member
      rcases List.mem_cons.mp member with isSign | isRest
      · exact .inl isSign
      · exact isNumeral char isRest

theorem IsNumeral.trimChars_eq (isNumeral : IsNumeral chars) :
    trimChars chars = chars := by
  refine trimChars_eq_self fun char member => ?_
  rcases isNumeral char member with rfl | rfl | isDigit
  · rfl
  · rfl
  · exact isBlank_of_isDigit isDigit

theorem toLower_of_isDigit {digit : Char} (isDigit : digit.isDigit = true) :
    digit.toLower = digit := by
  refine dif_neg fun isUpper => ?_
  rw [Char.isDigit, Bool.and_eq_true, decide_eq_true_eq, decide_eq_true_eq] at isDigit
  grind

/-- The characters of a numeral have no case. -/
theorem IsNumeral.map_toLower (isNumeral : IsNumeral chars) :
    chars.map Char.toLower = chars := by
  refine (List.map_congr_left fun char member => ?_).trans (List.map_id chars)
  rcases isNumeral char member with rfl | rfl | isDigit
  · rfl
  · rfl
  · exact toLower_of_isDigit isDigit

/-- A word with an "e" is no numeral. -/
theorem IsNumeral.equalIgnoringCase_eq_false
    {text word : String}
    (isNumeral : IsNumeral text.toList)
    (member : 'e' ∈ word.toList.map Char.toLower) :
    equalIgnoringCase text word = false := by
  rw [equalIgnoringCase, isNumeral.map_toLower, beq_eq_false_iff_ne]
  intro same
  rcases isNumeral 'e' (same ▸ member) with isSign | isPoint | isDigit
  · cases isSign
  · cases isPoint
  · cases isDigit

end Numeral

end Text

namespace Decimal

/-- The digits of a decimal, with zeros in front up to one before the point. -/
def digits (decimal : Decimal) : List Char :=
  Text.padZeros (decimal.scale + 1) (Text.decimalDigits decimal.mantissa)

theorem isDigit_of_mem_digits
    {decimal : Decimal}
    {char : Char}
    (member : char ∈ decimal.digits) :
    char.isDigit = true :=
  Text.isDigit_of_mem_padZeros_decimalDigits char member

theorem toList_toText (decimal : Decimal) :
    decimal.toText.toList =
      Text.signedChars decimal.negative
        (FloatStyle.plain.joinPoint
          (decimal.digits.take (decimal.digits.length - decimal.scale))
          (decimal.digits.drop (decimal.digits.length - decimal.scale))) :=
  String.toList_ofList

theorem isNumeral_toText (decimal : Decimal) :
    Text.IsNumeral decimal.toText.toList := by
  rw [toList_toText]
  refine Text.IsNumeral.signedChars (fun char member => .inr ?_) _
  refine Scientific.mem_joinPoint (fun digit member => ?_) member
  rw [List.take_append_drop] at member
  exact isDigit_of_mem_digits member

end Decimal

theorem Floating.isNumeral_toText
    {format : FloatFormat}
    (separates : format.SeparatesDigits)
    {float : Floating format}
    {value : Rat}
    (isValue : float.toRat? = some value) :
    Text.IsNumeral float.toText.toList := by
  obtain ⟨negative, rank, finite, rfl, _⟩ := toRat?_eq_some isValue
  rcases Nat.eq_zero_or_pos rank with rfl | positive
  · have isZero : ∀ char ∈ ['0'], char.isDigit = true := by simp
    rw [toText, text, if_neg finite.ne, if_pos rfl, String.toList_ofList]
    exact (Text.isNumeral_of_areDigits isZero).signedChars negative
  · obtain ⟨coefficient, place, whole, fraction, _, writes, isText⟩ :=
      exists_writes_toText separates positive finite negative
    rw [isText]
    exact fun char => writes.mem_signedChars

namespace Value

section Truth

variable {text : String}

theorem toBool_string_eq_error
    (notTrue : Text.equalIgnoringCase (Text.trim text) "true" = false)
    (notFalse : Text.equalIgnoringCase (Text.trim text) "false" = false) :
    (Value.string text).toBool = .error (.parse text DataType.boolean.name) := by
  rw [toBool, notTrue, notFalse]
  rfl

/-- A numeral does not read as a truth value. -/
theorem toBool_string_of_isNumeral (isNumeral : Text.IsNumeral text.toList) :
    (Value.string text).toBool = .error (.parse text DataType.boolean.name) := by
  have isTrimmed : Text.trim text = text := by
    rw [Text.trim, isNumeral.trimChars_eq, String.ofList_toList]
  refine toBool_string_eq_error ?_ ?_ <;> rw [isTrimmed]
  · exact isNumeral.equalIgnoringCase_eq_false (by decide)
  · exact isNumeral.equalIgnoringCase_eq_false (by decide)

end Truth

/-- The text of a float does not read as a truth value, whether it is finite or not. -/
theorem toBool_string_toText
    {format : FloatFormat}
    (separates : format.SeparatesDigits)
    (float : Floating format) :
    (Value.string float.toText).toBool =
      .error (.parse float.toText DataType.boolean.name) := by
  cases isValue : float.toRat? with
  | some value => exact toBool_string_of_isNumeral (float.isNumeral_toText separates isValue)
  | none =>
      rcases Floating.toText_of_toRat?_eq_none isValue with isText | isText | isText <;>
        rw [isText] <;> exact toBool_string_eq_error (by decide) (by decide)

/-- No text of a number reads as a truth value. -/
theorem toBool_string_of_numericText?
    {value : Value}
    {text : String}
    (isText : value.numericText? = some text) :
    (Value.string text).toBool = .error (.parse text DataType.boolean.name) := by
  cases value with
  | float32 float =>
      cases isText
      exact toBool_string_toText FloatFormat.separatesDigits_binary32 float
  | float64 float =>
      cases isText
      exact toBool_string_toText FloatFormat.separatesDigits_binary64 float
  | decimal decimal =>
      cases isText
      exact toBool_string_of_isNumeral decimal.normalize.isNumeral_toText
  | _ => cases isText

end Value
end RowBinding
