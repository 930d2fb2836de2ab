import RowBinding.Proofs.Number.DecimalTexts

/-!
# Decimals and their texts

A decimal is written with all its places, and the text reads as the same parts
again, so nothing is lost to the limits on mantissas and scales. Only a zero with
a sign comes back without it.

The normal form of a decimal is the same number without zeros at the end behind
the point. It has places exactly if the number is not whole, so its text reads as
an integer exactly if the number is one.
-/

namespace RowBinding
namespace Decimal

open Text (signedInt signedChars digitsValue)

variable {decimal : Decimal}

/-! ## Reading what is written -/

/-- Digits behind the point that fit are taken, whatever comes behind them. -/
theorem takeDigits?_append_behind
    {digits : List Char}
    (areDigits : ∀ digit ∈ digits, digit.isDigit = true)
    (negative : Bool)
    (rest : List Char) :
    ∀ {mantissa scale : Nat},
      mantissa * 10 ^ digits.length + digitsValue digits < mantissaBound →
        scale + digits.length ≤ greatestScale →
          takeDigits? negative mantissa scale true true (digits ++ rest) =
            takeDigits? negative (mantissa * 10 ^ digits.length + digitsValue digits)
              (scale + digits.length) true true rest := by
  induction digits with
  | nil =>
      intro mantissa scale _ _
      simp [digitsValue]
  | cons first later inductionHypothesis =>
      intro mantissa scale fits isScale
      rw [mul_pow_length_cons] at fits ⊢
      rw [List.length_cons] at isScale ⊢
      have fitsFirst : 10 * mantissa + Text.digitValue first < mantissaBound :=
        (Nat.le_mul_of_pos_right _ (by positivity)).trans_lt
          ((Nat.le_add_right _ _).trans_lt fits)
      rw [List.cons_append, takeDigits?_cons_behind (areDigits first List.mem_cons_self),
        if_neg (by omega),
        inductionHypothesis (fun digit member => areDigits digit (List.mem_cons_of_mem _ member))
          fits (by omega)]
      congr 1
      omega

/-- Digits behind the point that fit are all taken. -/
theorem takeDigits?_of_fits
    {digits : List Char}
    (areDigits : ∀ digit ∈ digits, digit.isDigit = true)
    (negative : Bool)
    {mantissa scale : Nat}
    (fits : mantissa * 10 ^ digits.length + digitsValue digits < mantissaBound)
    (isScale : scale + digits.length ≤ greatestScale) :
    takeDigits? negative mantissa scale true true digits =
      ofParts? negative (mantissa * 10 ^ digits.length + digitsValue digits)
        (scale + digits.length) := by
  have taken := takeDigits?_append_behind areDigits negative [] fits isScale
  rw [List.append_nil] at taken
  exact taken

theorem digitsValue_digits (decimal : Decimal) :
    digitsValue decimal.digits = decimal.mantissa := by
  rw [digits, Text.digitsValue_padZeros, Text.digitsValue_decimalDigits]

theorem scale_lt_length_digits (decimal : Decimal) : decimal.scale < decimal.digits.length :=
  Text.le_length_padZeros _ _

/-- Digits with a point between them and a sign read as a mantissa and places, if these fit. -/
theorem readPlain?_joinPoint
    {whole fraction : List Char}
    (nonempty : whole ≠ [])
    (areDigits : ∀ digit ∈ whole ++ fraction, digit.isDigit = true)
    (fits : digitsValue (whole ++ fraction) < mantissaBound)
    (isScale : fraction.length ≤ greatestScale)
    (negative : Bool) :
    readPlain? (signedChars negative (FloatStyle.plain.joinPoint whole fraction)) =
      ofParts? negative (digitsValue (whole ++ fraction)) fraction.length := by
  rw [Text.digitsValue_append] at fits ⊢
  have wholeFits : digitsValue whole < mantissaBound :=
    (Nat.le_mul_of_pos_right _ (by positivity)).trans_lt ((Nat.le_add_right _ _).trans_lt fits)
  have isPlain := readPlain?_signedChars nonempty
    (fun digit member => areDigits digit (List.mem_append_left _ member)) wholeFits negative
  rw [FloatStyle.joinPoint]
  split_ifs with noFraction keepsPoint
  · cases keepsPoint
  · rw [List.isEmpty_iff] at noFraction
    subst noFraction
    rw [← List.append_nil whole, isPlain]
    simp [takeDigits?, digitsValue]
  · have isPoint : takeDigits? negative (digitsValue whole) 0 false true ('.' :: fraction) =
        takeDigits? negative (digitsValue whole) 0 true true fraction := rfl
    rw [isPlain, isPoint, takeDigits?_of_fits
      (fun digit member => areDigits digit (List.mem_append_right _ member)) _ fits
      (by rwa [Nat.zero_add]), Nat.zero_add]

/-- The text of a decimal reads as its parts. -/
theorem read?_toText (decimal : Decimal) :
    read? decimal.toText.toList =
      ofParts? decimal.negative decimal.mantissa decimal.scale := by
  have isLonger := decimal.scale_lt_length_digits
  have areBoth := List.take_append_drop (decimal.digits.length - decimal.scale) decimal.digits
  have areDigits : ∀ digit ∈ decimal.digits, digit.isDigit = true :=
    fun _ => isDigit_of_mem_digits
  have fits := decimal.digitsValue_digits.trans_lt decimal.mantissa_lt
  have nonempty : decimal.digits.take (decimal.digits.length - decimal.scale) ≠ [] := by
    rw [ne_eq, List.take_eq_nil_iff, not_or, ← List.length_eq_zero_iff]
    omega
  have isScale : (decimal.digits.drop (decimal.digits.length - decimal.scale)).length =
      decimal.scale := by
    rw [List.length_drop]
    omega
  have reads := readPlain?_joinPoint nonempty (by rwa [areBoth]) (by rwa [areBoth])
    (isScale.trans_le decimal.scale_le) decimal.negative
  rw [areBoth, digitsValue_digits, isScale] at reads
  obtain ⟨other, isOther⟩ :=
    exists_ofParts? decimal.negative decimal.mantissa_lt decimal.scale_le
  rw [read?, toList_toText, reads, isOther]

theorem trimChars_toText (decimal : Decimal) :
    Text.trimChars decimal.toText.toList = decimal.toText.toList :=
  decimal.isNumeral_toText.trimChars_eq

/-! ## Magnitudes -/

theorem magnitude_nonneg (decimal : Decimal) : 0 ≤ decimal.magnitude :=
  div_nonneg (Nat.cast_nonneg _) (Nat.cast_nonneg _)

theorem abs_toRat (decimal : Decimal) : |decimal.toRat| = decimal.magnitude := by
  rw [toRat]
  split
  · rw [abs_neg, abs_of_nonneg decimal.magnitude_nonneg]
  · exact abs_of_nonneg decimal.magnitude_nonneg

theorem abs_toRat_lt (decimal : Decimal) : |decimal.toRat| < mantissaBound := by
  have unitPositive : (1 : Rat) ≤ tenPow decimal.scale := by exact_mod_cast tenPow_pos decimal.scale
  have isLess : (decimal.mantissa : Rat) < mantissaBound := by exact_mod_cast decimal.mantissa_lt
  rw [abs_toRat, magnitude]
  exact (div_le_self (Nat.cast_nonneg _) unitPositive).trans_lt isLess

/-! ## Normal forms -/

/-- No zero stands at the end behind the point, and zero has no sign. -/
structure IsNormal (decimal : Decimal) : Prop where
  noZeros : decimal.scale = 0 ∨ decimal.mantissa % 10 ≠ 0
  zeroPositive : decimal.mantissa = 0 → decimal.negative = false

theorem dropZeros_noZeros (mantissa scale : Nat) :
    (dropZeros 0 mantissa scale).2 = 0 ∨ (dropZeros 0 mantissa scale).1 % 10 ≠ 0 := by
  induction scale generalizing mantissa with
  | zero => exact .inl rfl
  | succ scale inductionHypothesis =>
      unfold dropZeros
      split
      · exact inductionHypothesis _
      · next notZero => exact .inr (by simpa using notZero)

/-- A mantissa without its zeros is the same number at the scale that is left. -/
theorem dropZeros_mul_tenPow (mantissa scale : Nat) :
    (dropZeros 0 mantissa scale).1 * tenPow scale =
      mantissa * tenPow (dropZeros 0 mantissa scale).2 := by
  induction scale generalizing mantissa with
  | zero => rfl
  | succ scale inductionHypothesis =>
      unfold dropZeros
      split
      · next endsInZero =>
          have isMultiple : 10 ∣ mantissa := Nat.dvd_of_mod_eq_zero (by simpa using endsInZero)
          rw [tenPow_succ, ← Nat.mul_assoc, inductionHypothesis, Nat.mul_right_comm,
            Nat.div_mul_cancel isMultiple]
      · rfl

theorem normalize_mantissa_mul_tenPow (decimal : Decimal) :
    decimal.normalize.mantissa * tenPow decimal.scale =
      decimal.mantissa * tenPow decimal.normalize.scale :=
  dropZeros_mul_tenPow decimal.mantissa decimal.scale

theorem normalize_mantissa_eq_zero_iff (decimal : Decimal) :
    decimal.normalize.mantissa = 0 ↔ decimal.mantissa = 0 := by
  have same := decimal.normalize_mantissa_mul_tenPow
  have isUnit (places : Nat) : tenPow places ≠ 0 := (tenPow_pos places).ne'
  constructor <;> intro isZero <;> rw [isZero, Nat.zero_mul] at same <;> simpa [isUnit] using same

theorem isNormal_normalize (decimal : Decimal) : decimal.normalize.IsNormal where
  noZeros := dropZeros_noZeros decimal.mantissa decimal.scale
  zeroPositive isZero := by
    rw [normalize_mantissa_eq_zero_iff] at isZero
    simp [normalize, reduce, isZero]

/-- The normal form has the value of the decimal. -/
@[simp] theorem toRat_normalize (decimal : Decimal) : decimal.normalize.toRat = decimal.toRat := by
  have isMagnitude : decimal.normalize.magnitude = decimal.magnitude := by
    rw [magnitude, magnitude, div_eq_div_iff (natCast_tenPow_ne_zero _) (natCast_tenPow_ne_zero _)]
    exact_mod_cast decimal.normalize_mantissa_mul_tenPow
  rcases Nat.eq_zero_or_pos decimal.mantissa with isZero | positive
  · have noMagnitude : decimal.magnitude = 0 := by
      rw [magnitude, isZero, Nat.cast_zero, zero_div]
    rw [toRat, toRat, isMagnitude, noMagnitude, neg_zero, ite_self, ite_self]
  · have sameSign : decimal.normalize.negative = decimal.negative := by
      simp [normalize, reduce, positive.ne']
    rw [toRat, toRat, isMagnitude, sameSign]

theorem equal_normalize (decimal : Decimal) : decimal.normalize.equal decimal = true :=
  (equal_iff _ _).mpr decimal.toRat_normalize

theorem IsNormal.read?_toText (isNormal : decimal.IsNormal) :
    read? decimal.toText.toList = some decimal := by
  have keepsSign : (decimal.negative && decimal.mantissa != 0) = decimal.negative := by
    rcases Nat.eq_zero_or_pos decimal.mantissa with isZero | positive
    · rw [isNormal.zeroPositive isZero, Bool.false_and]
    · simp [positive.ne']
  rw [Decimal.read?_toText, ofParts?, dif_pos ⟨decimal.mantissa_lt, decimal.scale_le⟩]
  simp only [keepsSign]

/-! ## Whole numbers -/

theorem toRat_of_scale_eq_zero (isWhole : decimal.scale = 0) :
    decimal.toRat = signedInt decimal.negative decimal.mantissa := by
  rw [toRat, magnitude, isWhole, tenPow_zero, Nat.cast_one, div_one]
  unfold signedInt
  split <;> simp

theorem mantissa_eq_mul_tenPow
    {exact : Int}
    (isExact : decimal.toRat = exact) :
    decimal.mantissa = exact.natAbs * tenPow decimal.scale := by
  have isMagnitude : decimal.magnitude = exact.natAbs := by
    rw [Nat.cast_natAbs, Int.cast_abs, ← isExact, abs_toRat]
  rw [magnitude, div_eq_iff (natCast_tenPow_ne_zero _)] at isMagnitude
  exact_mod_cast isMagnitude

/-- A normal decimal has no places if its value is an integer. -/
theorem IsNormal.scale_eq_zero
    (isNormal : decimal.IsNormal)
    {exact : Int}
    (isExact : decimal.toRat = exact) :
    decimal.scale = 0 := by
  rcases isNormal.noZeros with isWhole | notMultiple
  · exact isWhole
  · have isProduct := mantissa_eq_mul_tenPow isExact
    cases isScale : decimal.scale with
    | zero => rfl
    | succ scale =>
        refine absurd ?_ notMultiple
        rw [isProduct, isScale, tenPow_succ, ← Nat.mul_assoc, Nat.mul_mod_left]

/-- The text of a normal decimal reads as the integer that is its value. -/
theorem IsNormal.readInt?_toText
    (isNormal : decimal.IsNormal)
    {exact : Int}
    (isExact : decimal.toRat = exact) :
    Text.readInt? decimal.toText.toList = some exact := by
  have isWhole := isNormal.scale_eq_zero isExact
  have nonempty : decimal.digits ≠ [] :=
    List.ne_nil_of_length_pos (Nat.zero_lt_of_lt decimal.scale_lt_length_digits)
  have isText : decimal.toText.toList = signedChars decimal.negative decimal.digits := by
    rw [toList_toText, isWhole, Nat.sub_zero, List.take_length, List.drop_length]
    rfl
  rw [isText, Text.readInt?_signedChars (fun _ => isDigit_of_mem_digits) nonempty,
    digitsValue_digits]
  rw [toRat_of_scale_eq_zero isWhole] at isExact
  exact congrArg some (Int.cast_injective isExact)

/-- The text of a decimal that is no integer does not read as one. -/
theorem readInt?_toText_eq_none (noInteger : ∀ exact : Int, decimal.toRat ≠ exact) :
    Text.readInt? decimal.toText.toList = none := by
  have hasPlaces : decimal.scale ≠ 0 := fun isWhole =>
    noInteger _ (toRat_of_scale_eq_zero isWhole)
  have isLonger := decimal.scale_lt_length_digits
  have hasFraction :
      decimal.digits.drop (decimal.digits.length - decimal.scale) ≠ [] := by
    rw [ne_eq, List.drop_eq_nil_iff]
    omega
  have hasPoint := Floating.point_mem_signedChars decimal.negative
    (decimal.digits.take (decimal.digits.length - decimal.scale)) hasFraction
  rw [toList_toText]
  exact Text.readInt?_eq_none hasPoint rfl (by decide) (by decide)

end Decimal
end RowBinding
