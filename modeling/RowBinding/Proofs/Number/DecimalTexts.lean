import RowBinding.Number.Decimal.Reading
import RowBinding.Proofs.Number.Numerals

/-!
# Decimals of written numbers

Digits with at most one point and a sign read as a decimal if what stands before
the point fits a mantissa. Behind the point the digits that still fit are taken
and the rest is rounded off, so a decimal never fails for its places. A text
that reads as an integer reads as the decimal of the integer.

So every float that is not too large has a decimal, and a whole float below two
full binades has the decimal of its value. Infinities and what is not a number
have none.
-/

namespace RowBinding
namespace Decimal

open Text (signedInt signedChars digitValue digitsValue)

variable {negative : Bool} {mantissa scale : Nat}

/-- The decimal of a mantissa of few bits and few places. -/
def ofFewDigits (negative : Bool) (mantissa : BitVec 16) (scale : BitVec 4) : Decimal where
  negative
  mantissa := mantissa.toNat
  scale := scale.toNat
  mantissa_lt := mantissa.isLt.trans (by decide)
  scale_le := scale.isLt.le.trans (by decide)

theorem natCast_tenPow_ne_zero (exponent : Nat) : (tenPow exponent : Rat) ≠ 0 :=
  Nat.cast_ne_zero.mpr (tenPow_pos exponent).ne'

theorem exists_ofParts?
    (negative : Bool)
    (fits : mantissa < mantissaBound)
    (isScale : scale ≤ greatestScale) :
    ∃ decimal, ofParts? negative mantissa scale = some decimal :=
  ⟨_, dif_pos ⟨fits, isScale⟩⟩

/-- A mantissa without places is the decimal of an integer. -/
theorem exists_ofParts?_zero
    (negative : Bool)
    (fits : mantissa < mantissaBound) :
    ∃ decimal, ofParts? negative mantissa 0 = some decimal ∧
      decimal.toRat = signedInt negative mantissa := by
  refine ⟨_, dif_pos ⟨fits, Nat.zero_le _⟩, ?_⟩
  rcases Nat.eq_zero_or_pos mantissa with rfl | positive
  · cases negative <;> simp [toRat, magnitude, signedInt]
  · cases negative <;> simp [toRat, magnitude, signedInt, positive.ne']

theorem exists_ofInt?
    {number : Int}
    (fits : number.natAbs < mantissaBound) :
    ∃ decimal, ofInt? number = some decimal ∧ decimal.toRat = number := by
  obtain ⟨decimal, isDecimal, isValue⟩ := exists_ofParts?_zero (decide (number < 0)) fits
  exact ⟨decimal, isDecimal, by rw [isValue, Text.signedInt_natAbs]⟩

/-! ## Digits behind the point -/

/-- Digits behind the point can be taken or rounded off. -/
structure HasRoom (mantissa scale : Nat) : Prop where
  mantissa_lt : mantissa < mantissaBound
  scale_le : scale ≤ greatestScale
  spare : mantissa + 1 < mantissaBound ∨ 0 < scale

theorem HasRoom.exists_roundOff?
    (hasRoom : HasRoom mantissa scale)
    {rest : List Char}
    (areDigits : ∀ digit ∈ rest, digit.isDigit = true)
    (negative : Bool)
    (deciding : Nat) :
    ∃ decimal, roundOff? negative mantissa scale deciding rest = some decimal := by
  obtain ⟨isLess, isScale, spare⟩ := hasRoom
  have isTail : tailAllowed rest = true := by
    refine List.all_eq_true.mpr fun digit member => ?_
    rw [areDigits digit member, Bool.true_or]
  unfold roundOff?
  rw [isTail]
  split_ifs with isOther isSmall isSpare isWhole
  · cases isOther
  · exact exists_ofParts? negative isLess isScale
  · exact exists_ofParts? negative isSpare isScale
  · omega
  · exact exists_ofParts? negative (by omega) (by omega)

/-- A digit behind the point is taken while it fits, and decides the rounding else. -/
theorem takeDigits?_cons_behind
    {digit : Char}
    (isDigit : digit.isDigit = true)
    (rest : List Char) :
    takeDigits? negative mantissa scale true true (digit :: rest) =
      if scale = greatestScale ∨ mantissaBound ≤ 10 * mantissa + digitValue digit then
        roundOff? negative mantissa scale (digitValue digit) rest
      else
        takeDigits? negative (10 * mantissa + digitValue digit) (scale + 1) true true rest := by
  rw [takeDigits?, if_pos isDigit]
  grind

theorem HasRoom.exists_takeDigits?
    {digits : List Char}
    (areDigits : ∀ digit ∈ digits, digit.isDigit = true)
    (negative : Bool) :
    ∀ {mantissa scale : Nat}, HasRoom mantissa scale →
      ∃ decimal, takeDigits? negative mantissa scale true true digits = some decimal := by
  -- Every digit that is taken leaves a place behind the point.
  induction digits with
  | nil =>
      intro mantissa scale hasRoom
      exact exists_ofParts? negative hasRoom.mantissa_lt hasRoom.scale_le
  | cons first rest inductionHypothesis =>
      intro mantissa scale hasRoom
      have isDigit := areDigits first List.mem_cons_self
      have areLater : ∀ digit ∈ rest, digit.isDigit = true := fun digit member =>
        areDigits digit (List.mem_cons_of_mem first member)
      rw [takeDigits?_cons_behind isDigit]
      split_ifs with isFull
      · exact hasRoom.exists_roundOff? areLater negative _
      · have isScale := hasRoom.scale_le
        exact inductionHypothesis areLater ⟨by omega, by omega, .inr (Nat.succ_pos scale)⟩

/-! ## Digits before the point -/

/-- Digits behind a mantissa extend it by the first digit and then by the later ones. -/
theorem mul_pow_length_cons (mantissa : Nat) (first : Char) (later : List Char) :
    mantissa * 10 ^ (first :: later).length + digitsValue (first :: later) =
      (10 * mantissa + digitValue first) * 10 ^ later.length + digitsValue later := by
  have isFirst : digitsValue [first] = digitValue first := Nat.zero_add _
  rw [← List.singleton_append, Text.digitsValue_append, isFirst, List.length_append,
    List.length_singleton]
  ring

theorem takeDigits?_cons_before
    {digit : Char}
    {digitPassed : Bool}
    (isDigit : digit.isDigit = true)
    (fits : 10 * mantissa + digitValue digit < mantissaBound)
    (rest : List Char) :
    takeDigits? negative mantissa scale false digitPassed (digit :: rest) =
      takeDigits? negative (10 * mantissa + digitValue digit) scale false true rest := by
  rw [takeDigits?, if_pos isDigit]
  grind

/-- Digits before the point are all taken if they fit. -/
theorem takeDigits?_append
    {digits : List Char}
    (areDigits : ∀ digit ∈ digits, digit.isDigit = true)
    (negative : Bool)
    (rest : List Char) :
    ∀ {mantissa : Nat} {digitPassed : Bool},
      mantissa * 10 ^ digits.length + digitsValue digits < mantissaBound →
        takeDigits? negative mantissa 0 false digitPassed (digits ++ rest) =
          takeDigits? negative (mantissa * 10 ^ digits.length + digitsValue digits) 0 false
            (digitPassed || !digits.isEmpty) rest := by
  induction digits with
  | nil =>
      intro mantissa digitPassed fits
      simp [digitsValue]
  | cons first later inductionHypothesis =>
      intro mantissa digitPassed fits
      rw [mul_pow_length_cons] at fits ⊢
      have fitsFirst : 10 * mantissa + digitValue first < mantissaBound :=
        (Nat.le_mul_of_pos_right _ (by positivity)).trans_lt
          ((Nat.le_add_right _ _).trans_lt fits)
      rw [List.cons_append,
        takeDigits?_cons_before (areDigits first List.mem_cons_self) fitsFirst,
        inductionHypothesis (fun digit member => areDigits digit (List.mem_cons_of_mem _ member))
          fits]
      simp

/-- The digits of a number that fits are taken as the number. -/
theorem takeDigits?_of_areDigits
    {digits : List Char}
    (nonempty : digits ≠ [])
    (areDigits : ∀ digit ∈ digits, digit.isDigit = true)
    (fits : digitsValue digits < mantissaBound)
    (negative : Bool)
    (rest : List Char) :
    takeDigits? negative 0 0 false false (digits ++ rest) =
      takeDigits? negative (digitsValue digits) 0 false true rest := by
  have isValue : 0 * 10 ^ digits.length + digitsValue digits = digitsValue digits := by
    rw [Nat.zero_mul, Nat.zero_add]
  rw [takeDigits?_append areDigits negative rest (by rwa [isValue]), isValue,
    List.isEmpty_eq_false_iff.mpr nonempty]
  rfl

/-! ## Reading texts of digits -/

/-- The digits in front of a signed text are taken as the number that they denote. -/
theorem readPlain?_signedChars
    {digits : List Char}
    (nonempty : digits ≠ [])
    (areDigits : ∀ digit ∈ digits, digit.isDigit = true)
    (fits : digitsValue digits < mantissaBound)
    (negative : Bool)
    (rest : List Char) :
    readPlain? (signedChars negative (digits ++ rest)) =
      takeDigits? negative (digitsValue digits) 0 false true rest := by
  rw [← takeDigits?_of_areDigits nonempty areDigits fits]
  cases digits with
  | nil => exact absurd rfl nonempty
  | cons first later =>
      have isDigit := areDigits first List.mem_cons_self
      rw [readPlain?, List.cons_append, Text.splitSign_signedChars_of_isDigit isDigit]

/-- Digits with a point between them and a sign read as a decimal, if what stands before
the point fits. -/
theorem exists_read?_signedChars
    {whole fraction : List Char}
    (nonempty : whole ≠ [])
    (areDigits : ∀ digit ∈ whole ++ fraction, digit.isDigit = true)
    (fits : digitsValue whole + 1 < mantissaBound)
    (negative : Bool) :
    ∃ decimal, read? (signedChars negative (FloatStyle.plain.joinPoint whole fraction)) =
      some decimal := by
  have areWhole : ∀ digit ∈ whole, digit.isDigit = true := fun digit member =>
    areDigits digit (List.mem_append_left fraction member)
  have areFraction : ∀ digit ∈ fraction, digit.isDigit = true := fun digit member =>
    areDigits digit (List.mem_append_right whole member)
  have isPlain := readPlain?_signedChars nonempty areWhole (Nat.lt_of_succ_lt fits) negative
  obtain ⟨decimal, reads⟩ : ∃ decimal,
      readPlain? (signedChars negative (FloatStyle.plain.joinPoint whole fraction)) =
        some decimal := by
    unfold FloatStyle.joinPoint
    split_ifs with noFraction keepsPoint
    · cases keepsPoint
    · rw [← List.append_nil whole, isPlain]
      exact exists_ofParts? negative (by omega) (Nat.zero_le _)
    · rw [isPlain]
      have hasRoom : HasRoom (digitsValue whole) 0 := ⟨by omega, Nat.zero_le _, .inl fits⟩
      exact hasRoom.exists_takeDigits? areFraction negative
  exact ⟨decimal, by rw [read?, reads]⟩

/-- A text that reads as an integer reads as the decimal of the integer. -/
theorem exists_read?_of_readInt?
    {chars : List Char}
    {number : Int}
    (reads : Text.readInt? chars = some number)
    (fits : number.natAbs < mantissaBound) :
    ∃ decimal, read? chars = some decimal ∧ decimal.toRat = number := by
  rw [Text.readInt?] at reads
  rcases isSplit : Text.splitSign chars with ⟨negative, digits⟩
  rw [isSplit] at reads
  dsimp only at reads
  split at reads
  · next isRun =>
      rw [Text.isDigits, Bool.and_eq_true, Bool.not_eq_true', List.isEmpty_eq_false_iff,
        List.all_eq_true] at isRun
      obtain rfl := Option.some.inj reads
      change (signedInt negative (digitsValue digits)).natAbs < mantissaBound at fits
      rw [Floating.natAbs_signedInt] at fits
      obtain ⟨decimal, isDecimal, isValue⟩ := exists_ofParts?_zero negative fits
      have isPlain : readPlain? chars = some decimal := by
        rw [readPlain?, isSplit]
        dsimp only
        rw [← List.append_nil digits, takeDigits?_of_areDigits isRun.1 isRun.2 fits]
        exact isDecimal
      exact ⟨decimal, by rw [read?, isPlain], isValue⟩
  · cases reads

end Decimal

/-! ## Decimals of floats -/

namespace Floating

variable {format : FloatFormat} {float : Floating format}

/-- The absolute value of a finite float is its magnitude. -/
theorem abs_eq_magnitude
    {negative : Bool}
    {rank : Nat}
    {value : Rat}
    (isValue : value = if negative then -format.magnitude rank else format.magnitude rank) :
    |value| = format.magnitude rank := by
  have isMagnitude := abs_of_nonneg (format.magnitude_nonneg rank)
  rw [isValue]
  split_ifs
  · rw [abs_neg, isMagnitude]
  · exact isMagnitude

/-- The text of a finite float reads as a decimal if the float is not too large. -/
theorem exists_read?_toText
    (separates : format.SeparatesDigits)
    {value : Rat}
    (isValue : float.toRat? = some value)
    (small : 4 * |value| < mantissaBound) :
    ∃ decimal, Decimal.read? float.toText.toList = some decimal := by
  obtain ⟨negative, rank, finite, rfl, isSigned⟩ := toRat?_eq_some isValue
  rw [abs_eq_magnitude isSigned] at small
  rcases Nat.eq_zero_or_pos rank with rfl | positive
  · obtain ⟨decimal, reads, _⟩ := Decimal.exists_read?_of_readInt?
      (readInt?_toText_zero finite negative) (by decide)
    exact ⟨decimal, reads⟩
  · obtain ⟨coefficient, place, whole, fraction, isShortest, writes, isText⟩ :=
      exists_writes_toText separates positive finite negative
    rw [isText]
    refine Decimal.exists_read?_signedChars writes.nonempty writes.areDigits ?_ negative
    have isLess := FloatFormat.lt_magnitude_succ finite isShortest.readsBack
    have isTwice := format.spacing_le_magnitude positive
    have isWhole := writes.digitsValue_whole_le
    rw [format.magnitude_succ] at isLess
    have isBelow : 2 * (Text.digitsValue whole : Rat) < mantissaBound := by linarith
    have fits : 2 * Text.digitsValue whole < mantissaBound := by exact_mod_cast isBelow
    unfold mantissaBound at fits ⊢
    omega

/-- The text of a whole float below two full binades reads as the decimal of its value. -/
theorem exists_read?_toText_eq
    (separates : format.SeparatesDigits)
    (fine : format.leastExponent ≤ 0)
    (narrow : 2 * twoPow format.fractionBits ≤ mantissaBound)
    {exact : Int}
    (isExact : float.toRat? = some (exact : Rat))
    (small : exact.natAbs < 2 * twoPow format.fractionBits) :
    ∃ decimal, Decimal.read? float.toText.toList = some decimal ∧ decimal.toRat = exact := by
  obtain ⟨short, reads, isShortest⟩ := exists_isShortestInteger separates isExact
  obtain rfl := isShortest.eq_of_lt isExact fine small
  exact Decimal.exists_read?_of_readInt? reads (small.trans_le narrow)

/-- The name of a float that is not finite reads as no decimal. -/
theorem read?_toText_eq_none (notFinite : float.toRat? = none) :
    Decimal.read? float.toText.toList = none := by
  rcases toText_of_toRat?_eq_none notFinite with isText | isText | isText <;>
    rw [isText] <;> decide

end Floating
end RowBinding
