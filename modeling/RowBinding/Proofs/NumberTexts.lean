import RowBinding.Proofs.Number.NormalDecimals
import RowBinding.Proofs.NumericValues

/-!
# Texts as numbers

A text converts to the integer that it reads as, and to no integer if it reads
as none. The text of an integer reads as it, and so does the text of a normal
decimal as a decimal.
-/

namespace RowBinding

/-! ## Integers -/

namespace Value

/-- A text converts by way of the type that is asked for. -/
theorem convert_string_eq_convertTo
    (layouts : List String)
    (text : String)
    (target : DataType)
    (notObject : target ≠ .object)
    (notText : target ≠ .string) :
    (Value.string text).convert layouts target =
      (Value.string text).convertTo layouts target := by
  have isOther : ¬ (target = .object || (Value.string text).dataType? = some target) = true := by
    simp [dataType?, notObject, notText.symm]
  rw [convert, if_neg isOther]
  rfl

variable {text : String}

theorem convert_string_of_readInt?
    {number : Int}
    (layouts : List String)
    (kind : IntegerKind)
    (reads : Text.readInt? (Text.trimChars text.toList) = some number)
    (isTextInteger : IsTextInteger number) :
    (Value.string text).convert layouts (.integer kind) =
      (narrow number kind).map Value.integer := by
  have isNumber : (Value.string text).toInt (.integer kind) = .ok number := by
    rw [toInt, reads]
    exact if_pos isTextInteger
  rw [convert_string_eq_convertTo layouts text (.integer kind) nofun nofun, convertTo,
    toInteger, isNumber]
  rfl

theorem convert_string_of_readInt?_eq_none
    (layouts : List String)
    (kind : IntegerKind)
    (noInteger : Text.readInt? (Text.trimChars text.toList) = none) :
    (Value.string text).convert layouts (.integer kind) =
      .error (.parse text (DataType.integer kind).name) := by
  have fails : (Value.string text).toInt (.integer kind) =
      .error (.parse text (DataType.integer kind).name) := by
    rw [toInt, noInteger]
  rw [convert_string_eq_convertTo layouts text (.integer kind) nofun nofun, convertTo,
    toInteger, fails]
  rfl

end Value

/-- Twice an integer of a kind is not too large for a text. -/
theorem IntegerKind.Contains.isTextInteger
    {kind : IntegerKind}
    {exact short : Int}
    (inRange : kind.Contains exact)
    (isLess : short.natAbs ≤ 2 * exact.natAbs) :
    Value.IsTextInteger short := by
  have isSmall := inRange.natAbs_le
  unfold Value.IsTextInteger
  omega

namespace Text

theorem toList_ofInt (number : Int) :
    (ofInt number).toList = signedChars (number < 0) (decimalDigits number.natAbs) := by
  unfold ofInt signedChars
  rw [String.toList_append, toList_ofNat]
  split_ifs with isNegative isSigned isSigned
  · rfl
  · exact absurd (decide_eq_true isNegative) isSigned
  · exact absurd (of_decide_eq_true isSigned) isNegative
  · rfl

/-- The text of an integer reads as the integer. -/
theorem readInt?_ofInt (number : Int) :
    readInt? (trimChars (ofInt number).toList) = some number := by
  have areDigits : ∀ digit ∈ decimalDigits number.natAbs, digit.isDigit = true :=
    fun _ => isDigit_of_mem_decimalDigits
  have isNumeral := (isNumeral_of_areDigits areDigits).signedChars (number < 0)
  rw [toList_ofInt, isNumeral.trimChars_eq, readInt?_signedChars areDigits Nat.toDigits_ne_nil,
    digitsValue_decimalDigits, signedInt_natAbs]

end Text

/-! ## Decimals -/

namespace Value

theorem decimalOfText_toText {decimal : Decimal} (isNormal : decimal.IsNormal) :
    decimalOfText decimal.toText = .ok decimal := by
  rw [decimalOfText, decimal.trimChars_toText, isNormal.read?_toText]

/-- An integer that is the value of a decimal is not too large for a text. -/
theorem isTextInteger_of_toRat
    {decimal : Decimal}
    {exact : Int}
    (isExact : decimal.toRat = exact) :
    IsTextInteger exact := by
  have isProduct := Decimal.mantissa_eq_mul_tenPow isExact
  have isSmall : exact.natAbs < mantissaBound := by
    refine Nat.lt_of_le_of_lt ?_ decimal.mantissa_lt
    rw [isProduct]
    exact Nat.le_mul_of_pos_right _ (tenPow_pos _)
  unfold mantissaBound at isSmall
  unfold IsTextInteger
  omega

end Value
end RowBinding
