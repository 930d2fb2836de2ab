import Mathlib.Data.List.Basic
import Mathlib.Data.List.Induction
import Mathlib.Data.List.TakeWhile
import Mathlib.Tactic.Ring
import RowBinding.Text.Blank
import RowBinding.Text.Digits

/-!
# Written numbers

The digits of a number denote that number, so no two numbers are written alike.
Zeros in front of digits do not change the number, and each zero behind them
multiplies it by ten.

A text of digits with an optional sign reads as an integer. A text with any
other character does not.
-/

namespace RowBinding
namespace Text

@[simp] theorem digitsValue_decimalDigits (number : Nat) :
    digitsValue (decimalDigits number) = number :=
  Nat.ofDigitChars_ten_toDigits

theorem isDigit_of_mem_decimalDigits
    {number : Nat}
    {char : Char}
    (member : char ∈ decimalDigits number) :
    char.isDigit = true :=
  Nat.isDigit_of_mem_toDigits (by decide) (Nat.le_refl 10) member

/-- A character that is no digit does not occur in a written number. -/
theorem not_mem_decimalDigits
    {char : Char}
    (noDigit : char.isDigit = false)
    (number : Nat) :
    char ∉ decimalDigits number := by
  intro member
  rw [isDigit_of_mem_decimalDigits member] at noDigit
  cases noDigit

theorem decimalDigits_injective : Function.Injective decimalDigits :=
  Function.LeftInverse.injective digitsValue_decimalDigits

@[simp] theorem toList_ofNat (number : Nat) :
    (ofNat number).toList = decimalDigits number :=
  String.toList_ofList

/-! ## Runs of digits -/

theorem digitsValue_concat (digits : List Char) (last : Char) :
    digitsValue (digits ++ [last]) = 10 * digitsValue digits + digitValue last := by
  rw [digitsValue, List.foldl_append]
  rfl

theorem digitsValue_append (front back : List Char) :
    digitsValue (front ++ back) = digitsValue front * 10 ^ back.length + digitsValue back := by
  induction back using List.reverseRecOn with
  | nil => simp [digitsValue]
  | append_singleton back last inductionHypothesis =>
      rw [← List.append_assoc, digitsValue_concat, inductionHypothesis, digitsValue_concat,
        List.length_append, List.length_singleton]
      ring

@[simp] theorem digitsValue_replicate_zero (zeros : Nat) :
    digitsValue (List.replicate zeros '0') = 0 :=
  Nat.ofDigitChars_replicate_zero

@[simp] theorem digitsValue_replicate_append (zeros : Nat) (digits : List Char) :
    digitsValue (List.replicate zeros '0' ++ digits) = digitsValue digits := by
  rw [digitsValue_append, digitsValue_replicate_zero, Nat.zero_mul, Nat.zero_add]

@[simp] theorem digitsValue_append_replicate (digits : List Char) (zeros : Nat) :
    digitsValue (digits ++ List.replicate zeros '0') = digitsValue digits * 10 ^ zeros := by
  rw [digitsValue_append, digitsValue_replicate_zero, List.length_replicate, Nat.add_zero]

/-! ## Padded numbers -/

section Padded

variable {width : Nat} {digits : List Char}

@[simp] theorem digitsValue_padZeros (width : Nat) (digits : List Char) :
    digitsValue (padZeros width digits) = digitsValue digits :=
  digitsValue_replicate_append _ digits

theorem le_length_padZeros (width : Nat) (digits : List Char) :
    width ≤ (padZeros width digits).length := by
  rw [padZeros, List.length_append, List.length_replicate]
  omega

theorem length_padZeros (fits : digits.length ≤ width) :
    (padZeros width digits).length = width := by
  rw [padZeros, List.length_append, List.length_replicate]
  omega

theorem isDigit_of_mem_padZeros
    (areDigits : ∀ digit ∈ digits, digit.isDigit = true) :
    ∀ digit ∈ padZeros width digits, digit.isDigit = true := by
  intro digit member
  rcases List.mem_append.mp member with isZero | isDigit
  · rw [List.eq_of_mem_replicate isZero]
    rfl
  · exact areDigits digit isDigit

@[simp] theorem toList_ofNatPadded (width number : Nat) :
    (ofNatPadded width number).toList = padZeros width (decimalDigits number) :=
  String.toList_ofList

@[simp] theorem ofNatPadded_zero (number : Nat) : ofNatPadded 0 number = ofNat number := by
  rw [ofNatPadded, padZeros, Nat.zero_sub, List.replicate_zero, List.nil_append, ofNat]

/-- A number below the power of ten is padded to the width exactly. -/
theorem length_padZeros_decimalDigits
    {number : Nat}
    (positive : 0 < width)
    (isLess : number < 10 ^ width) :
    (padZeros width (decimalDigits number)).length = width :=
  length_padZeros ((Nat.length_toDigits_le_iff (by decide) positive).mpr isLess)

theorem isDigit_of_mem_padZeros_decimalDigits {number : Nat} :
    ∀ digit ∈ padZeros width (decimalDigits number), digit.isDigit = true :=
  isDigit_of_mem_padZeros fun _ => isDigit_of_mem_decimalDigits

theorem padZeros_decimalDigits_ne_nil (width number : Nat) :
    padZeros width (decimalDigits number) ≠ [] :=
  List.append_ne_nil_of_right_ne_nil _ Nat.toDigits_ne_nil

end Padded

section Digit

variable {digit : Char}

theorem digitValue_lt (isDigit : digit.isDigit = true) : digitValue digit < 10 := by
  rw [Char.isDigit_iff_toNat] at isDigit
  unfold digitValue
  simp only [Char.reduceToNat] at isDigit ⊢
  omega

/-- No two digits have the same value. -/
theorem digitValue_injOn
    {other : Char}
    (isDigit : digit.isDigit = true)
    (otherIsDigit : other.isDigit = true)
    (sameValue : digitValue digit = digitValue other) :
    digit = other := by
  rw [Char.isDigit_iff_toNat] at isDigit otherIsDigit
  unfold digitValue at sameValue
  refine Char.toNat_inj.mp ?_
  simp only [Char.reduceToNat] at isDigit otherIsDigit sameValue
  omega

theorem eq_zero_of_digitValue
    (isDigit : digit.isDigit = true)
    (isZero : digitValue digit = 0) :
    digit = '0' :=
  digitValue_injOn isDigit rfl isZero

end Digit

section Runs

variable {digits others : List Char}

/-- A run of digits denotes less than the power of ten of its length. -/
theorem digitsValue_lt (areDigits : ∀ digit ∈ digits, digit.isDigit = true) :
    digitsValue digits < 10 ^ digits.length := by
  induction digits using List.reverseRecOn with
  | nil => exact Nat.one_pos
  | append_singleton front last inductionHypothesis =>
      have isLess := inductionHypothesis fun digit member =>
        areDigits digit (List.mem_append_left _ member)
      have isLast := digitValue_lt
        (areDigits last (List.mem_append_right front (List.mem_singleton_self last)))
      rw [digitsValue_concat, List.length_append, List.length_singleton, pow_succ]
      omega

/-- Runs of digits of one length that denote the same number are the same. -/
theorem eq_of_digitsValue_eq
    (areDigits : ∀ digit ∈ digits, digit.isDigit = true)
    (othersAreDigits : ∀ digit ∈ others, digit.isDigit = true)
    (sameLength : digits.length = others.length)
    (sameValue : digitsValue digits = digitsValue others) :
    digits = others := by
  induction digits using List.reverseRecOn generalizing others with
  | nil => exact (List.eq_nil_of_length_eq_zero sameLength.symm).symm
  | append_singleton front last inductionHypothesis =>
      have nonempty : others ≠ [] := by
        rintro rfl
        rw [List.length_append, List.length_singleton] at sameLength
        exact absurd sameLength (Nat.succ_ne_zero _)
      obtain ⟨otherFront, otherLast, rfl⟩ :=
        (List.eq_nil_or_concat' others).resolve_left nonempty
      rw [List.forall_mem_append, List.forall_mem_singleton] at areDigits othersAreDigits
      rw [digitsValue_concat, digitsValue_concat] at sameValue
      rw [List.length_append, List.length_append, List.length_singleton, List.length_singleton,
        Nat.add_right_cancel_iff] at sameLength
      have isLess := digitValue_lt areDigits.2
      have otherIsLess := digitValue_lt othersAreDigits.2
      rw [inductionHypothesis areDigits.1 othersAreDigits.1 sameLength (by omega),
        digitValue_injOn areDigits.2 othersAreDigits.2 (by omega)]

/-- A run of digits is the number that it denotes, filled up with zeros to its length. -/
theorem padZeros_digitsValue
    (areDigits : ∀ digit ∈ digits, digit.isDigit = true)
    (nonempty : digits ≠ []) :
    padZeros digits.length (decimalDigits (digitsValue digits)) = digits := by
  refine eq_of_digitsValue_eq isDigit_of_mem_padZeros_decimalDigits areDigits ?_ ?_
  · exact length_padZeros_decimalDigits (List.length_pos_iff.mpr nonempty)
      (digitsValue_lt areDigits)
  · rw [digitsValue_padZeros, digitsValue_decimalDigits]

end Runs

/-- Only a run of digits that ends with a zero denotes a multiple of ten. -/
theorem getLast?_of_dvd_digitsValue
    {digits : List Char}
    (areDigits : ∀ digit ∈ digits, digit.isDigit = true)
    (nonempty : digits ≠ [])
    (isMultiple : 10 ∣ digitsValue digits) :
    digits.getLast? = some '0' := by
  induction digits using List.reverseRecOn with
  | nil => exact absurd rfl nonempty
  | append_singleton front last =>
      have isDigit := areDigits last (List.mem_append_right front (List.mem_singleton_self last))
      have isLess := digitValue_lt isDigit
      rw [digitsValue_concat] at isMultiple
      have isZero : digitValue last = 0 := by omega
      rw [List.getLast?_concat, eq_zero_of_digitValue isDigit isZero]

/-! ## Reading integers -/

/-- The integer with a magnitude and a sign. -/
def signedInt (negative : Bool) (magnitude : Nat) : Int :=
  if negative then -magnitude else magnitude

theorem signedInt_natAbs (number : Int) : signedInt (number < 0) number.natAbs = number := by
  unfold signedInt
  split_ifs with isNegative
  · have isLess := of_decide_eq_true isNegative
    omega
  · have isMore : ¬ number < 0 := by simpa using isNegative
    omega

/-- The text of digits with a sign. -/
def signedChars (negative : Bool) (chars : List Char) : List Char :=
  if negative then '-' :: chars else chars

theorem splitSign_signedChars
    {first : Char}
    {rest : List Char}
    (noMinus : first ≠ '-')
    (noPlus : first ≠ '+')
    (negative : Bool) :
    splitSign (signedChars negative (first :: rest)) = (negative, first :: rest) := by
  cases negative with
  | true => rfl
  | false =>
      unfold signedChars splitSign
      split <;> simp_all

theorem splitSign_signedChars_of_isDigit
    {first : Char}
    (isDigit : first.isDigit = true)
    (rest : List Char)
    (negative : Bool) :
    splitSign (signedChars negative (first :: rest)) = (negative, first :: rest) := by
  refine splitSign_signedChars ?_ ?_ negative <;>
    rintro rfl <;> cases isDigit

theorem readInt?_signedChars
    {digits : List Char}
    (areDigits : ∀ digit ∈ digits, digit.isDigit = true)
    (nonempty : digits ≠ [])
    (negative : Bool) :
    readInt? (signedChars negative digits) = some (signedInt negative (digitsValue digits)) := by
  cases digits with
  | nil => exact absurd rfl nonempty
  | cons first rest =>
      have isDigit := areDigits first List.mem_cons_self
      have isRun : isDigits (first :: rest) = true := by
        rw [isDigits, List.isEmpty_cons, Bool.not_false, Bool.true_and, List.all_eq_true]
        exact areDigits
      rw [readInt?, splitSign_signedChars_of_isDigit isDigit]
      exact if_pos isRun

/-- A text with a character that is neither a digit nor a sign reads as no integer. -/
theorem readInt?_eq_none
    {chars : List Char}
    {other : Char}
    (member : other ∈ chars)
    (noDigit : other.isDigit = false)
    (noMinus : other ≠ '-')
    (noPlus : other ≠ '+') :
    readInt? chars = none := by
  have isBehind : other ∈ (splitSign chars).2 := by
    unfold splitSign
    split <;> simp_all
  refine if_neg fun isRun => ?_
  rw [isDigits, Bool.and_eq_true, List.all_eq_true] at isRun
  rw [isRun.2 other isBehind] at noDigit
  cases noDigit

/-! ## Trimming -/

theorem isBlank_of_isDigit {digit : Char} (isDigit : digit.isDigit = true) :
    isBlank digit = false := by
  rw [Char.isDigit_iff_toNat] at isDigit
  simp only [Char.reduceToNat] at isDigit
  rw [isBlank, inRanges, List.any_eq_false]
  intro range member
  simp only [blankRanges, List.mem_cons, List.not_mem_nil, or_false] at member
  rcases member with rfl | rfl | rfl | rfl | rfl | rfl | rfl | rfl | rfl | rfl <;>
    simp <;> omega

theorem isBlank_of_mem_padZeros_decimalDigits {width number : Nat} :
    ∀ char ∈ padZeros width (decimalDigits number), isBlank char = false :=
  fun char member => isBlank_of_isDigit (isDigit_of_mem_padZeros_decimalDigits char member)

theorem trimLeft_eq_self
    {chars : List Char}
    (startsBare : ∀ char, chars.head? = some char → isBlank char = false) :
    trimLeft chars = chars := by
  cases chars with
  | nil => rfl
  | cons first rest => rw [trimLeft_cons, if_neg (by simp [startsBare first rfl])]

/-- A text without a blank at either end stays as it is. -/
theorem trimChars_of_ends
    {chars : List Char}
    (startsBare : ∀ char, chars.head? = some char → isBlank char = false)
    (endsBare : ∀ char, chars.getLast? = some char → isBlank char = false) :
    trimChars chars = chars := by
  rw [trimChars, trimLeft_eq_self startsBare, trimLeft_eq_self (by simpa using endsBare),
    List.reverse_reverse]

theorem trimChars_eq_self
    {chars : List Char}
    (noBlanks : ∀ char ∈ chars, isBlank char = false) :
    trimChars chars = chars :=
  trimChars_of_ends (fun char isFirst => noBlanks char (List.mem_of_head? isFirst))
    fun char isLast => noBlanks char (List.mem_of_getLast? isLast)

theorem trimLeft_append
    {front : List Char}
    (noBlanks : ∀ char ∈ front, isBlank char = false)
    (nonempty : front ≠ [])
    (rest : List Char) :
    trimLeft (front ++ rest) = front ++ rest := by
  refine trimLeft_eq_self fun char isFirst => noBlanks char (List.mem_of_head? ?_)
  rwa [List.head?_append_of_ne_nil _ nonempty] at isFirst

/-- Only the ends of a text have to be without blanks. -/
theorem trimChars_append
    {front back : List Char}
    (noFrontBlanks : ∀ char ∈ front, isBlank char = false)
    (frontNonempty : front ≠ [])
    (noBackBlanks : ∀ char ∈ back, isBlank char = false)
    (backNonempty : back ≠ [])
    (middle : List Char) :
    trimChars (front ++ (middle ++ back)) = front ++ (middle ++ back) := by
  refine trimChars_of_ends (fun char isFirst => ?_) fun char isLast => ?_
  · rw [List.head?_append_of_ne_nil _ frontNonempty] at isFirst
    exact noFrontBlanks char (List.mem_of_head? isFirst)
  · rw [← List.append_assoc, List.getLast?_append_of_ne_nil _ backNonempty] at isLast
    exact noBackBlanks char (List.mem_of_getLast? isLast)

/-- Trimming leaves nothing of a text of blanks alone. -/
theorem trimChars_eq_nil_iff {chars : List Char} :
    trimChars chars = [] ↔ ∀ char ∈ chars, isBlank char = true := by
  induction chars with
  | nil => exact iff_of_true rfl nofun
  | cons first rest inductionHypothesis =>
      cases startsBlank : isBlank first with
      | true =>
          have same : trimChars (first :: rest) = trimChars rest := by
            rw [trimChars, trimLeft_cons, if_pos startsBlank, trimChars]
          rw [same, inductionHypothesis, List.forall_mem_cons, and_iff_right startsBlank]
      | false =>
          have keepsAll : trimLeft (first :: rest) = first :: rest := by
            rw [trimLeft_cons, startsBlank]
            rfl
          rw [trimChars, keepsAll, List.reverse_eq_nil_iff, trimLeft,
            List.dropWhile_eq_nil_iff]
          exact forall_congr' fun char => by rw [List.mem_reverse]

end Text
end RowBinding
