import RowBinding.Proofs.Number.NormalDecimals
import RowBinding.Proofs.Number.Rounding

/-!
# Decimals of numbers with many places

A number written in full reads as the decimal that is nearest to it among those
of twenty-eight places, with a half going away from zero, as long as its digits
fit a mantissa: the places behind the last one matter only by the first of them,
which says on which side of the half the number is.

A whole number that fits no mantissa reads as no decimal.
-/

namespace RowBinding

/-! ## Rounding away from zero -/

namespace Rounding

variable {value : Rat}

theorem nearestAway_of_nonneg (nonnegative : 0 ≤ value) :
    nearestAway value = (value + 1 / 2).floor :=
  if_neg (not_lt.mpr nonnegative)

theorem nearestAway_neg (value : Rat) : nearestAway (-value) = -nearestAway value := by
  rcases lt_trichotomy value 0 with negative | rfl | positive
  · rw [nearestAway_of_nonneg (neg_nonneg.mpr negative.le), nearestAway, if_pos negative, neg_neg]
    congr 1
    ring
  · decide +kernel
  · rw [nearestAway_of_nonneg positive.le, nearestAway, if_pos (neg_neg_of_pos positive)]
    congr 2
    ring

theorem nearestAway_natCast (number : Nat) : nearestAway (number : Rat) = number := by
  rw [nearestAway_of_nonneg (Nat.cast_nonneg _), ← Int.cast_natCast]
  exact floor_eq (by linarith) (by linarith)

theorem nearestAway_intCast (number : Int) : nearestAway (number : Rat) = number := by
  rcases Int.eq_nat_or_neg number with ⟨count, rfl | rfl⟩
  · exact nearestAway_natCast count
  · rw [Int.cast_neg, nearestAway_neg, Int.cast_natCast, nearestAway_natCast]

/-- A number is rounded up exactly if its excess is at least a half. -/
theorem nearestAway_natCast_add
    (number : Nat)
    {excess : Rat}
    (nonnegative : 0 ≤ excess)
    (isLess : excess < 1) :
    nearestAway (number + excess) = number + if excess < 1 / 2 then 0 else 1 := by
  have sumNonnegative : 0 ≤ (number : Rat) + excess := add_nonneg (Nat.cast_nonneg _) nonnegative
  rw [nearestAway_of_nonneg sumNonnegative]
  split_ifs with isSmall
  · refine floor_eq ?_ ?_ <;> push_cast <;> linarith
  · rw [not_lt] at isSmall
    refine floor_eq ?_ ?_ <;> push_cast <;> linarith

end Rounding

/-! ## The first digit that is left out -/

namespace Text

/-- Digits behind a point are below a half exactly if the first of them is below five. -/
theorem digitsValue_div_lt_half_iff
    {first : Char}
    {later : List Char}
    (areDigits : ∀ digit ∈ first :: later, digit.isDigit = true) :
    (digitsValue (first :: later) : Rat) / 10 ^ (first :: later).length < 1 / 2 ↔
      digitValue first < 5 := by
  have isLess := digitsValue_lt fun digit member =>
    areDigits digit (List.mem_cons_of_mem first member)
  have isValue := Decimal.mul_pow_length_cons 0 first later
  rw [Nat.zero_mul, Nat.zero_add, Nat.mul_zero, Nat.zero_add] at isValue
  rw [isValue, div_lt_div_iff₀ (by positivity) two_pos, List.length_cons, pow_succ]
  have positive : 0 < 10 ^ later.length := by positivity
  constructor
  · intro isSmall
    have scaled : (digitValue first * 10 ^ later.length + digitsValue later) * 2 <
        1 * (10 ^ later.length * 10) := by exact_mod_cast isSmall
    by_contra isLarge
    have atLeast := Nat.mul_le_mul_right (10 ^ later.length) (not_lt.mp isLarge)
    omega
  · intro isSmall
    have atMost := Nat.mul_le_mul_right (10 ^ later.length) (Nat.le_of_lt_succ isSmall)
    have scaled : (digitValue first * 10 ^ later.length + digitsValue later) * 2 <
        1 * (10 ^ later.length * 10) := by omega
    exact_mod_cast scaled

/-- The number with a magnitude and a sign. -/
def signedRat (negative : Bool) (magnitude : Rat) : Rat :=
  if negative then -magnitude else magnitude

theorem abs_signedRat {negative : Bool} {magnitude : Rat} (nonnegative : 0 ≤ magnitude) :
    |signedRat negative magnitude| = magnitude := by
  cases negative with
  | false => exact abs_of_nonneg nonnegative
  | true => exact (abs_neg _).trans (abs_of_nonneg nonnegative)

theorem signedRat_div (negative : Bool) (magnitude divisor : Rat) :
    signedRat negative (magnitude / divisor) = signedRat negative magnitude / divisor := by
  cases negative with
  | false => rfl
  | true => exact (neg_div divisor magnitude).symm

theorem signedRat_mul (negative : Bool) (magnitude factor : Rat) :
    signedRat negative (magnitude * factor) = signedRat negative magnitude * factor := by
  cases negative with
  | false => rfl
  | true => exact (neg_mul magnitude factor).symm

/-- A number has one magnitude, and one sign unless it is zero. -/
theorem signedRat_eq_iff
    {negative otherNegative : Bool}
    {magnitude other : Rat}
    (nonnegative : 0 ≤ magnitude)
    (otherNonnegative : 0 ≤ other) :
    signedRat negative magnitude = signedRat otherNegative other ↔
      magnitude = other ∧ (negative = otherNegative ∨ magnitude = 0) := by
  unfold signedRat
  cases negative <;> cases otherNegative <;> grind

end Text

/-- The sign of a number does not matter to how its magnitude is rounded. -/
theorem Rounding.nearestAway_signedRat_mul
    (negative : Bool)
    (magnitude unit : Rat) :
    (nearestAway (Text.signedRat negative magnitude * unit) : Rat) =
      Text.signedRat negative (nearestAway (magnitude * unit)) := by
  rw [← Text.signedRat_mul]
  cases negative with
  | false => rfl
  | true =>
      unfold Text.signedRat
      rw [if_pos rfl, if_pos rfl, nearestAway_neg, Int.cast_neg]

namespace Decimal

open Text (signedChars signedRat digitValue digitsValue)

variable {negative : Bool} {mantissa scale : Nat}

theorem exists_ofParts?_toRat
    (negative : Bool)
    (fits : mantissa < mantissaBound)
    (isScale : scale ≤ greatestScale) :
    ∃ decimal, ofParts? negative mantissa scale = some decimal ∧
      decimal.toRat = signedRat negative (mantissa / tenPow scale) := by
  refine ⟨_, dif_pos ⟨fits, isScale⟩, ?_⟩
  rcases Nat.eq_zero_or_pos mantissa with rfl | positive
  · cases negative <;> simp [toRat, magnitude, signedRat]
  · cases negative <;> simp [toRat, magnitude, signedRat, positive.ne']

/-! ## Digits behind the point -/

/-- The digit behind the last place rounds up from five on. -/
theorem takeDigits?_cons_greatestScale
    {deciding : Char}
    {later : List Char}
    (areDigits : ∀ digit ∈ deciding :: later, digit.isDigit = true)
    (fits : mantissa + 1 < mantissaBound)
    (negative : Bool) :
    takeDigits? negative mantissa greatestScale true true (deciding :: later) =
      ofParts? negative (mantissa + if digitValue deciding < 5 then 0 else 1) greatestScale := by
  have isTail : tailAllowed later = true := by
    refine List.all_eq_true.mpr fun digit member => ?_
    rw [areDigits digit (List.mem_cons_of_mem deciding member), Bool.true_or]
  rw [takeDigits?_cons_behind (areDigits deciding List.mem_cons_self), if_pos (.inl rfl),
    roundOff?, isTail, if_neg (by decide)]
  split_ifs
  · rfl
  · rfl

/-- More digits than places are read up to the first one that is left out. -/
theorem readPlain?_of_long
    {whole front later : List Char}
    {deciding : Char}
    (nonempty : whole ≠ [])
    (areDigits : ∀ digit ∈ whole ++ (front ++ deciding :: later), digit.isDigit = true)
    (isFront : front.length = greatestScale)
    (fits : digitsValue (whole ++ front) + 1 < mantissaBound)
    (negative : Bool) :
    readPlain?
        (signedChars negative (FloatStyle.plain.joinPoint whole (front ++ deciding :: later))) =
      ofParts? negative
        (digitsValue (whole ++ front) + if digitValue deciding < 5 then 0 else 1)
        greatestScale := by
  have areWhole : ∀ digit ∈ whole, digit.isDigit = true := fun digit member =>
    areDigits digit (List.mem_append_left _ member)
  have areFront : ∀ digit ∈ front, digit.isDigit = true := fun digit member =>
    areDigits digit (List.mem_append_right _ (List.mem_append_left _ member))
  have areRest : ∀ digit ∈ deciding :: later, digit.isDigit = true := fun digit member =>
    areDigits digit (List.mem_append_right _ (List.mem_append_right _ member))
  have isMantissa : digitsValue (whole ++ front) =
      digitsValue whole * 10 ^ front.length + digitsValue front := Text.digitsValue_append _ _
  have isLess := Nat.le_mul_of_pos_right (digitsValue whole)
    (show 0 < 10 ^ front.length by positivity)
  have hasFraction : (front ++ deciding :: later).isEmpty = false := by simp
  have isPoint : takeDigits? negative (digitsValue whole) 0 false true
      ('.' :: (front ++ deciding :: later)) =
        takeDigits? negative (digitsValue whole) 0 true true (front ++ deciding :: later) := rfl
  rw [FloatStyle.joinPoint, hasFraction, if_neg Bool.false_ne_true,
    readPlain?_signedChars nonempty areWhole (by omega), isPoint,
    takeDigits?_append_behind areFront negative _ (by omega) (by omega), ← isMantissa,
    Nat.zero_add, isFront, takeDigits?_cons_greatestScale areRest fits]

/-! ## The nearest number of some places -/

section Places

variable {front later : List Char} {places : Nat}

/-- A number with its point moved behind some places. -/
theorem digitsValue_div_mul_tenPow (front rest : List Char) (places : Nat) :
    (digitsValue (front ++ rest) : Rat) / 10 ^ (places + rest.length) * tenPow places =
      digitsValue front + digitsValue rest / 10 ^ rest.length := by
  rw [Text.digitsValue_append, natCast_tenPow, zpow_natCast, pow_add]
  push_cast
  field_simp

theorem nearestAway_of_long
    {deciding : Char}
    (areDigits : ∀ digit ∈ deciding :: later, digit.isDigit = true) :
    Rounding.nearestAway (digitsValue (front ++ deciding :: later) /
        10 ^ (places + (deciding :: later).length) * tenPow places) =
      (digitsValue front + if digitValue deciding < 5 then 0 else 1 : Nat) := by
  have isLess : (digitsValue (deciding :: later) : Rat) < 10 ^ (deciding :: later).length := by
    exact_mod_cast Text.digitsValue_lt areDigits
  rw [digitsValue_div_mul_tenPow, Rounding.nearestAway_natCast_add _ (by positivity)
    ((div_lt_one (by positivity)).mpr isLess)]
  simp only [Text.digitsValue_div_lt_half_iff areDigits]
  split_ifs <;> rfl

/-- A number of few places is whole if its point is moved behind more of them. -/
theorem div_pow_mul_tenPow (number : Nat) {length : Nat} (isShort : length ≤ places) :
    (number : Rat) / 10 ^ length * tenPow places = (number * tenPow (places - length) : Nat) := by
  obtain ⟨more, rfl⟩ := Nat.exists_eq_add_of_le isShort
  rw [Nat.add_sub_cancel_left]
  push_cast
  rw [natCast_tenPow, natCast_tenPow, zpow_natCast, zpow_natCast, pow_add]
  field_simp

end Places

/-- A number of units of the last of twenty-eight places. -/
def ofUnits (units : Int) : Rat :=
  units / tenPow greatestScale

/-- The number of units that is nearest to a number. -/
def unitsOf (number : Rat) : Int :=
  Rounding.nearestAway (number * tenPow greatestScale)

theorem ofUnits_mul (units : Int) : ofUnits units * tenPow greatestScale = units :=
  div_mul_cancel₀ _ (natCast_tenPow_ne_zero greatestScale)

theorem ofUnits_injective : Function.Injective ofUnits := by
  intro units other same
  have isProduct := congrArg (· * (tenPow greatestScale : Rat)) same
  simp only [ofUnits_mul] at isProduct
  exact_mod_cast isProduct

/-- A whole number of units is its own nearest one. -/
@[simp] theorem unitsOf_ofUnits (units : Int) : unitsOf (ofUnits units) = units := by
  rw [unitsOf, ofUnits_mul, Rounding.nearestAway_intCast]

theorem ofUnits_unitsOf_signedRat (negative : Bool) (magnitude : Rat) :
    ofUnits (unitsOf (signedRat negative magnitude)) =
      signedRat negative (ofUnits (unitsOf magnitude)) := by
  rw [ofUnits, unitsOf, Rounding.nearestAway_signedRat_mul, ← Text.signedRat_div]
  rfl

/-- A number of at most twenty-eight places is a whole number of units. -/
theorem exists_eq_ofUnits
    (number : Nat)
    {length : Nat}
    (isShort : length ≤ greatestScale) :
    ∃ units : Nat, (number : Rat) / 10 ^ length = ofUnits units := by
  refine ⟨number * tenPow (greatestScale - length), ?_⟩
  rw [ofUnits, Int.cast_natCast, ← div_pow_mul_tenPow number isShort,
    mul_div_cancel_right₀ _ (natCast_tenPow_ne_zero greatestScale)]

/-- Digits with a point between them read as the decimal of twenty-eight places that is
nearest to the number, if they fit a mantissa. -/
theorem exists_readPlain?_of_fits
    {whole fraction : List Char}
    (nonempty : whole ≠ [])
    (areDigits : ∀ digit ∈ whole ++ fraction, digit.isDigit = true)
    (fits : digitsValue (whole ++ fraction) < mantissaBound)
    (spare : fraction = [] ∨ digitsValue (whole ++ fraction) + 1 < mantissaBound)
    (negative : Bool) :
    ∃ decimal,
      readPlain? (signedChars negative (FloatStyle.plain.joinPoint whole fraction)) =
        some decimal ∧
      decimal.toRat = signedRat negative
        (ofUnits (unitsOf (digitsValue (whole ++ fraction) / 10 ^ fraction.length))) := by
  rcases Nat.lt_or_ge greatestScale fraction.length with isLong | isShort
  · obtain ⟨deciding, later, isRest⟩ := List.exists_cons_of_ne_nil
      (List.drop_eq_nil_iff.not.mpr (not_le.mpr isLong))
    have isFraction := List.take_append_drop greatestScale fraction
    have isFront := List.length_take_of_le isLong.le
    rw [isRest] at isFraction
    generalize fraction.take greatestScale = front at isFraction isFront
    subst isFraction
    have frontFits : digitsValue (whole ++ front) + 1 < mantissaBound := by
      have fits := spare.resolve_left (by simp)
      rw [← List.append_assoc, Text.digitsValue_append] at fits
      have isLess := Nat.le_mul_of_pos_right (digitsValue (whole ++ front))
        (show 0 < 10 ^ (deciding :: later).length by positivity)
      omega
    have rounded : (digitsValue (whole ++ front) + if digitValue deciding < 5 then 0 else 1) <
        mantissaBound := by
      split_ifs <;> omega
    obtain ⟨decimal, isDecimal, isValue⟩ :=
      exists_ofParts?_toRat negative rounded (le_refl greatestScale)
    refine ⟨decimal, ?_, ?_⟩
    · rw [readPlain?_of_long nonempty areDigits isFront frontFits, isDecimal]
    · rw [isValue, ← List.append_assoc, List.length_append, isFront, unitsOf, nearestAway_of_long
        fun digit member => areDigits digit
          (List.mem_append_right _ (List.mem_append_right _ member)), ofUnits, Int.cast_natCast]
  · obtain ⟨decimal, isDecimal, isValue⟩ :=
      exists_ofParts?_toRat negative fits isShort
    refine ⟨decimal, ?_, ?_⟩
    · rw [readPlain?_joinPoint nonempty areDigits fits isShort, isDecimal]
    · obtain ⟨units, isUnits⟩ := exists_eq_ofUnits (digitsValue (whole ++ fraction)) isShort
      rw [isUnits, unitsOf_ofUnits, ← isUnits, isValue, natCast_tenPow, zpow_natCast]

/-! ## Whole numbers that fit no mantissa -/

theorem takeDigits?_eq_none_of_large
    {digits : List Char}
    (areDigits : ∀ digit ∈ digits, digit.isDigit = true)
    (negative : Bool) :
    ∀ {mantissa : Nat} {digitPassed : Bool}, mantissa < mantissaBound →
      mantissaBound ≤ mantissa * 10 ^ digits.length + digitsValue digits →
        takeDigits? negative mantissa 0 false digitPassed digits = none := by
  induction digits with
  | nil =>
      intro mantissa digitPassed fits large
      rw [List.length_nil, pow_zero, Nat.mul_one] at large
      exact absurd (large.trans_eq (Nat.add_zero mantissa)) (not_le.mpr fits)
  | cons first later inductionHypothesis =>
      intro mantissa digitPassed fits large
      have isDigit := areDigits first List.mem_cons_self
      rw [mul_pow_length_cons] at large
      rcases Nat.lt_or_ge (10 * mantissa + digitValue first) mantissaBound with room | full
      · rw [takeDigits?_cons_before isDigit room]
        exact inductionHypothesis
          (fun digit member => areDigits digit (List.mem_cons_of_mem _ member)) room large
      · rw [takeDigits?, if_pos isDigit]
        simp [full]

/-- A text with neither mark of an exponent reads as a decimal only without one. -/
theorem read?_eq_readPlain?
    {chars : List Char}
    (isNumeral : Text.IsNumeral chars) :
    read? chars = readPlain? chars := by
  have noMark : chars.dropWhile (fun char => !(char == 'e' || char == 'E')) = [] := by
    rw [List.dropWhile_eq_nil_iff]
    intro char member
    rcases isNumeral char member with rfl | rfl | isDigit
    · rfl
    · rfl
    · rw [Bool.not_eq_true', Bool.or_eq_false_iff, beq_eq_false_iff_ne, beq_eq_false_iff_ne]
      constructor <;> rintro rfl <;> cases isDigit
  rw [read?]
  cases readPlain? chars with
  | some decimal => rfl
  | none =>
      dsimp only
      rw [readScientific?, noMark]

/-- The digits of a whole number that fits no mantissa read as no decimal. -/
theorem read?_eq_none_of_large
    {digits : List Char}
    (nonempty : digits ≠ [])
    (areDigits : ∀ digit ∈ digits, digit.isDigit = true)
    (large : mantissaBound ≤ digitsValue digits)
    (negative : Bool) :
    read? (signedChars negative digits) = none := by
  rw [read?_eq_readPlain? ((Text.isNumeral_of_areDigits areDigits).signedChars negative)]
  obtain ⟨first, later, rfl⟩ := List.exists_cons_of_ne_nil nonempty
  rw [readPlain?, Text.splitSign_signedChars_of_isDigit (areDigits first List.mem_cons_self)]
  refine takeDigits?_eq_none_of_large areDigits negative (by decide) ?_
  rwa [Nat.zero_mul, Nat.zero_add]

end Decimal
end RowBinding
