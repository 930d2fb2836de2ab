import Mathlib.Algebra.Order.Group.Unbundled.Int
import RowBinding.Proofs.Number.WrittenInFull

/-!
# Whole floats

The text of a float whose value is an integer reads as an integer that reads
back as the float. It is the nearest one to the value among the integers that
end with as many zeros, and none with more zeros reads back. So it is the value
itself unless an integer with more zeros than the value reads back, and it is
the value of every float below the first whole numbers that are no floats.

The text of any other float does not read as an integer.
-/

namespace RowBinding

open Text (signedInt)

namespace FloatFormat

variable {format : FloatFormat} {rank : Nat}

theorem spacing_le_magnitude (format : FloatFormat) (positive : 0 < rank) :
    format.spacing rank ≤ format.magnitude rank := by
  have isSum := format.significand_add rank
  have isLarge := @le_significand format rank
  have binadePositive := twoPow_pos format.fractionBits
  have significandPositive : 1 ≤ format.significand rank := by
    rcases Nat.eq_zero_or_pos (format.doublings rank) with isFirst | doubled
    · rw [isFirst] at isSum
      omega
    · exact binadePositive.trans_le (isLarge doubled)
  rw [magnitude_eq]
  exact le_mul_of_one_le_left (format.spacing_pos rank).le (Nat.one_le_cast.mpr significandPositive)

theorem pos_of_magnitude_eq
    (format : FloatFormat)
    (positive : 0 < rank)
    {number : Nat}
    (isNumber : format.magnitude rank = number) :
    0 < number := by
  have magnitudePositive := format.magnitude_pos positive
  rw [isNumber] at magnitudePositive
  exact Nat.cast_pos.mp magnitudePositive

/-- The shortest digits of a natural number have no place behind the point. -/
theorem IsShortest.exists_place_eq
    {coefficient number : Nat}
    {place : Int}
    (isShortest : format.IsShortest rank coefficient place)
    (positive : 0 < number)
    (finite : rank < format.infinityRank)
    (isNumber : format.magnitude rank = number) :
    ∃ zeros : Nat, place = zeros := by
  by_contra isBehind
  have negative : place < 0 := by
    by_contra nonnegative
    exact isBehind ⟨place.toNat, (Int.toNat_of_nonneg (not_lt.mp nonnegative)).symm⟩
  have isLeading : 0 ≤ decimalExponent (format.magnitude rank) := by
    rw [isNumber, decimalExponent_natCast positive]
    exact Int.natCast_nonneg _
  have readsBack : format.nearestRank (number * (10 : Rat) ^ (0 : Int)) = rank := by
    rw [zpow_zero, mul_one, ← isNumber]
    exact format.nearestRank_magnitude finite.le
  exact isShortest.coarsest negative isLeading readsBack

end FloatFormat

namespace Floating

variable {format : FloatFormat} {rank : Nat}

/--
An integer is what the shortest digits of a float denote, whose value is an integer.

It reads back, and it ends with so many zeros that no integer with more zeros reads
back, up to as many as the value has digits behind the first. No integer that ends with
as many zeros and reads back is nearer to the value.
-/
structure IsShortestInteger (float : Floating format) (exact short : Int) : Prop where
  readsBack : float.equal (.ofInt short) = true
  exists_zeros : ∃ zeros : Nat, (10 : Int) ^ zeros ∣ short ∧
    (exact ≠ 0 → (10 : Int) ^ zeros ≤ |exact|) ∧
    (∀ more other, zeros < more → (10 : Int) ^ more ≤ |exact| → (10 : Int) ^ more ∣ other →
      float.equal (.ofInt other) = false) ∧
    ∀ other, (10 : Int) ^ zeros ∣ other → float.equal (.ofInt other) = true →
      |exact - short| ≤ |exact - other|

/-! ## Integers that read back -/

theorem ofInt_natCast (count : Nat) :
    (ofInt count : Floating format) = round false count := by
  have nonnegative : ¬ ((count : Int) : Rat) < 0 := by
    rw [Int.cast_natCast]
    exact not_lt.mpr (Nat.cast_nonneg count)
  rw [ofInt, ofRat, if_neg nonnegative, Int.cast_natCast]

theorem ofInt_neg_natCast {count : Nat} (positive : 0 < count) :
    (ofInt (-count) : Floating format) = round true count := by
  have negative : ((-count : Int) : Rat) < 0 := by
    rw [Int.cast_neg, Int.cast_natCast]
    exact neg_neg_of_pos (Nat.cast_pos.mpr positive)
  rw [ofInt, ofRat, if_pos negative, Int.cast_neg, Int.cast_natCast,
    Rat.neg_neg]

/-- An integer reads back as a float other than zero if it has its sign and its magnitude
reads back. -/
theorem equal_ofInt_iff
    {negative : Bool}
    {bounded : rank ≤ format.infinityRank}
    {number : Int}
    (positive : 0 < rank) :
    (signed negative rank bounded).equal (.ofInt number) = true ↔
      ∃ count : Nat, number = signedInt negative count ∧ format.nearestRank count = rank := by
  have positive_of {count : Nat} (readsBack : format.nearestRank count = rank) : 0 < count :=
    Nat.cast_pos.mp (FloatFormat.pos_of_nearestRank positive readsBack)
  have equal_round (sign : Bool) (count : Nat) :
      (signed negative rank bounded).equal (round sign (count : Rat)) = true ↔
        format.nearestRank count = rank ∧ negative = sign := by
    change (rank == format.nearestRank count && (negative == sign || rank == 0)) = true ↔ _
    rw [Bool.and_eq_true, Bool.or_eq_true, beq_iff_eq, beq_iff_eq, beq_iff_eq,
      or_iff_left positive.ne', eq_comm]
  constructor
  · intro readsBack
    rcases Int.eq_nat_or_neg number with ⟨count, rfl | rfl⟩
    · rw [ofInt_natCast, equal_round] at readsBack
      obtain ⟨readsBack, rfl⟩ := readsBack
      exact ⟨count, rfl, readsBack⟩
    · rcases Nat.eq_zero_or_pos count with rfl | countPositive
      · rw [Int.natCast_zero, Int.neg_zero] at readsBack
        have isZero := (equal_round false 0).mp (ofInt_natCast 0 ▸ readsBack)
        exact absurd (positive_of isZero.1) (Nat.lt_irrefl 0)
      · rw [ofInt_neg_natCast countPositive, equal_round] at readsBack
        obtain ⟨readsBack, rfl⟩ := readsBack
        exact ⟨count, rfl, readsBack⟩
  · rintro ⟨count, rfl, readsBack⟩
    cases negative with
    | false =>
        rw [signedInt, if_neg Bool.false_ne_true, ofInt_natCast]
        exact (equal_round false count).mpr ⟨readsBack, rfl⟩
    | true =>
        rw [signedInt, if_pos rfl, ofInt_neg_natCast (positive_of readsBack)]
        exact (equal_round true count).mpr ⟨readsBack, rfl⟩

/-! ## The shortest integer -/

section Signed

variable (negative : Bool)

@[simp] theorem signedInt_zero : signedInt negative 0 = 0 := by
  cases negative <;> rfl

theorem natAbs_signedInt (number : Nat) : (signedInt negative number).natAbs = number := by
  cases negative with
  | false => rfl
  | true => exact Int.natAbs_neg number

theorem abs_signedInt (number : Nat) : |signedInt negative number| = number := by
  cases negative with
  | false => exact abs_of_nonneg (Int.natCast_nonneg number)
  | true => exact (abs_neg _).trans (abs_of_nonneg (Int.natCast_nonneg number))

theorem natCast_dvd_signedInt {divisor number : Nat} :
    (divisor : Int) ∣ signedInt negative number ↔ divisor ∣ number := by
  rw [← dvd_abs, abs_signedInt, Int.natCast_dvd_natCast]

theorem exists_eq_mul_of_dvd_signedInt
    {places number : Nat}
    (isDivisor : (10 : Int) ^ places ∣ signedInt negative number) :
    ∃ units, number = units * 10 ^ places := by
  have isPower : ((10 ^ places : Nat) : Int) ∣ signedInt negative number := by
    exact_mod_cast isDivisor
  obtain ⟨units, isNumber⟩ := (natCast_dvd_signedInt negative).mp isPower
  exact ⟨units, isNumber.trans (Nat.mul_comm _ _)⟩

theorem abs_signedInt_sub (first second : Nat) :
    |signedInt negative first - signedInt negative second| = |(first : Int) - second| := by
  cases negative with
  | false => rfl
  | true =>
      rw [abs_sub_comm]
      unfold signedInt
      congr 1
      rw [if_pos rfl, if_pos rfl]
      ring

end Signed

/-- The shortest digits of the magnitude of a float denote its shortest integer. -/
theorem isShortestInteger_of_isShortest
    {negative : Bool}
    {coefficient zeros number : Nat}
    (isShortest : format.IsShortest rank coefficient zeros)
    (positive : 0 < rank)
    (finite : rank < format.infinityRank)
    (isNumber : format.magnitude rank = number) :
    (signed negative rank finite.le).IsShortestInteger (signedInt negative number)
      (signedInt negative (coefficient * 10 ^ zeros)) := by
  have numberPositive := format.pos_of_magnitude_eq positive isNumber
  have isLeading : decimalExponent (format.magnitude rank) = (Nat.log 10 number : Nat) := by
    rw [isNumber, decimalExponent_natCast numberPositive]
  refine ⟨(equal_ofInt_iff positive).mpr ⟨_, rfl, ?_⟩, zeros, ?_, fun _ => ?_,
    fun more other isMore isLess isDivisor => ?_, fun other isDivisor readsBack => ?_⟩
  · rw [← natCast_mul_tenPow]
    exact isShortest.readsBack
  · have isDivisor : 10 ^ zeros ∣ coefficient * 10 ^ zeros := Dvd.intro_left coefficient rfl
    exact_mod_cast (natCast_dvd_signedInt negative).mpr isDivisor
  · have isPlace := isShortest.place_le
    rw [isLeading] at isPlace
    rw [abs_signedInt]
    exact_mod_cast (Nat.pow_le_pow_right (by norm_num) (Int.ofNat_le.mp isPlace)).trans
      (Nat.pow_log_le_self 10 numberPositive.ne')
  · refine Bool.eq_false_iff.mpr fun readsBack => ?_
    obtain ⟨count, rfl, hits⟩ := (equal_ofInt_iff positive).mp readsBack
    obtain ⟨units, rfl⟩ := exists_eq_mul_of_dvd_signedInt negative isDivisor
    rw [← natCast_mul_tenPow] at hits
    refine isShortest.coarsest (Int.ofNat_lt.mpr isMore) ?_ hits
    rw [abs_signedInt] at isLess
    rw [isLeading]
    exact Int.ofNat_le.mpr (Nat.le_log_of_pow_le (by norm_num) (by exact_mod_cast isLess))
  · obtain ⟨count, rfl, hits⟩ := (equal_ofInt_iff positive).mp readsBack
    obtain ⟨units, rfl⟩ := exists_eq_mul_of_dvd_signedInt negative isDivisor
    rw [← natCast_mul_tenPow] at hits
    have isNearest := isShortest.nearest hits
    rw [isNumber, natCast_mul_tenPow, natCast_mul_tenPow] at isNearest
    rw [abs_signedInt_sub, abs_signedInt_sub]
    exact_mod_cast isNearest

/-! ## Reading the text of a float -/

theorem toRat?_eq_some
    {float : Floating format}
    {value : Rat}
    (isValue : float.toRat? = some value) :
    ∃ negative rank, ∃ finite : rank < format.infinityRank,
      float = signed negative rank finite.le ∧
        value = if negative then -format.magnitude rank else format.magnitude rank := by
  cases float with
  | nan => cases isValue
  | signed negative rank bounded =>
      rw [toRat?] at isValue
      split_ifs at isValue with isInfinite isNegative
      · cases isValue
        exact ⟨negative, rank, lt_of_le_of_ne bounded isInfinite, rfl, by rw [if_pos isNegative]⟩
      · cases isValue
        exact ⟨negative, rank, lt_of_le_of_ne bounded isInfinite, rfl, by rw [if_neg isNegative]⟩

/-- The magnitude of a float with an integer value is a natural number. -/
theorem exists_signedInt_eq
    {negative : Bool}
    {exact : Int}
    (isExact : (exact : Rat) =
      if negative then -format.magnitude rank else format.magnitude rank) :
    ∃ number : Nat, format.magnitude rank = number ∧ exact = signedInt negative number := by
  have nonnegative := format.magnitude_nonneg rank
  cases negative with
  | false =>
      have isMagnitude : (exact : Rat) = format.magnitude rank := isExact
      rw [← isMagnitude] at nonnegative ⊢
      obtain ⟨number, rfl⟩ := Int.eq_ofNat_of_zero_le (Int.cast_nonneg_iff.mp nonnegative)
      exact ⟨number, Int.cast_natCast number, rfl⟩
  | true =>
      have isMagnitude : format.magnitude rank = ((-exact : Int) : Rat) := by
        rw [Int.cast_neg, isExact]
        exact (Rat.neg_neg _).symm
      rw [isMagnitude] at nonnegative ⊢
      obtain ⟨number, isNumber⟩ := Int.eq_ofNat_of_zero_le (Int.cast_nonneg_iff.mp nonnegative)
      refine ⟨number, by rw [isNumber, Int.cast_natCast], ?_⟩
      rw [signedInt, if_pos rfl]
      omega

theorem isShortestInteger_zero (negative : Bool) :
    (zero negative : Floating format).IsShortestInteger 0 0 := by
  refine ⟨?_, 0, dvd_zero _, fun nonzero => absurd rfl nonzero, fun more other _ isLess => ?_,
    fun other _ _ => ?_⟩
  · have isZero : format.nearestRank (0 : Nat) = 0 :=
      format.nearestRank_of_nonpos (Nat.cast_zero (R := Rat)).le
    have isRound : (ofInt 0 : Floating format) = round false (0 : Nat) := ofInt_natCast 0
    rw [isRound, zero, round, equal, Bool.and_eq_true, beq_iff_eq]
    exact ⟨isZero.symm, Bool.or_true _⟩
  · have isPositive : (0 : Int) < 10 ^ more := by positivity
    rw [abs_zero] at isLess
    omega
  · rw [sub_self, abs_zero]
    exact abs_nonneg _

/-- A float with an integer value is a zero, or has a sign and a natural magnitude. -/
theorem zero_or_signed_of_toRat?
    {float : Floating format}
    {exact : Int}
    (isExact : float.toRat? = some (exact : Rat)) :
    (∃ negative, float = zero negative ∧ exact = 0) ∨
      ∃ negative rank number, ∃ finite : rank < format.infinityRank, 0 < rank ∧
        float = signed negative rank finite.le ∧ format.magnitude rank = (number : Nat) ∧
          exact = signedInt negative number := by
  obtain ⟨negative, rank, finite, rfl, isValue⟩ := toRat?_eq_some isExact
  obtain ⟨number, isNumber, rfl⟩ := exists_signedInt_eq isValue
  rcases Nat.eq_zero_or_pos rank with rfl | positive
  · have isZero : number = 0 := by
      rw [format.magnitude_zero] at isNumber
      exact_mod_cast isNumber.symm
    exact .inl ⟨negative, rfl, isZero ▸ signedInt_zero negative⟩
  · exact .inr ⟨negative, rank, number, finite, positive, rfl, isNumber, rfl⟩

/-- The text of a zero reads as zero. -/
theorem readInt?_toText_zero (infinite : 0 < format.infinityRank) (negative : Bool) :
    Text.readInt? (zero negative : Floating format).toText.toList = some 0 := by
  have isText : (zero negative : Floating format).toText.toList =
      Text.signedChars negative ['0'] := by
    rw [zero, toText, text, if_neg infinite.ne, if_pos rfl, String.toList_ofList]
    rfl
  have isDigit : ∀ digit ∈ ['0'], digit.isDigit = true := by
    simp
  rw [isText, Text.readInt?_signedChars isDigit (List.cons_ne_nil _ _)]
  exact congrArg some (signedInt_zero negative)

/-- The text of a float with an integer value reads as the integer that its shortest
digits denote. -/
theorem exists_isShortestInteger
    (separates : format.SeparatesDigits)
    {float : Floating format}
    {exact : Int}
    (isExact : float.toRat? = some (exact : Rat)) :
    ∃ short, Text.readInt? float.toText.toList = some short ∧
      float.IsShortestInteger exact short := by
  rcases zero_or_signed_of_toRat? isExact with
    ⟨negative, rfl, rfl⟩ | ⟨negative, rank, number, finite, positive, rfl, isNumber, rfl⟩
  · obtain ⟨_, _, finite, same, _⟩ := toRat?_eq_some isExact
    exact ⟨0, readInt?_toText_zero (Nat.zero_lt_of_lt finite) negative,
      isShortestInteger_zero negative⟩
  · obtain ⟨coefficient, place, whole, fraction, isShortest, writes, isText⟩ :=
      exists_writes_toText separates positive finite negative
    have numberPositive := format.pos_of_magnitude_eq positive isNumber
    obtain ⟨zeros, rfl⟩ := isShortest.exists_place_eq numberPositive finite isNumber
    rw [natCast_mul_tenPow] at writes
    obtain rfl := writes.fraction_eq_nil
    have isWhole : coefficient * 10 ^ zeros = Text.digitsValue whole := by
      exact_mod_cast writes.eq_digitsValue
    have areDigits : ∀ digit ∈ whole, digit.isDigit = true := fun digit member =>
      writes.areDigits digit (List.mem_append_left [] member)
    have isJoined : FloatStyle.plain.joinPoint whole [] = whole := rfl
    rw [isText, isJoined, Text.readInt?_signedChars areDigits writes.nonempty, ← isWhole]
    exact ⟨_, rfl, isShortestInteger_of_isShortest isShortest positive finite isNumber⟩

/-- The magnitude of a finite float without an integer value is no natural number. -/
theorem magnitude_ne_natCast
    {negative : Bool}
    {bounded : rank ≤ format.infinityRank}
    (finite : rank < format.infinityRank)
    (noInteger : ∀ exact : Int, (signed negative rank bounded).toRat? ≠ some (exact : Rat))
    (number : Nat) :
    format.magnitude rank ≠ number := by
  intro isNumber
  refine noInteger (signedInt negative number) ?_
  rw [toRat?, if_neg finite.ne, isNumber]
  cases negative <;> simp [signedInt]

/-- The shortest digits have places behind the point unless the magnitude is a natural
number. -/
theorem fraction_ne_nil
    {coefficient : Nat}
    {place : Int}
    {whole fraction : List Char}
    (isShortest : format.IsShortest rank coefficient place)
    (writes : Scientific.Writes (coefficient * (10 : Rat) ^ place) whole fraction)
    (finite : rank < format.infinityRank)
    (noNatural : ∀ number : Nat, format.magnitude rank ≠ number) :
    fraction ≠ [] := by
  rintro rfl
  have readsBack := isShortest.readsBack
  rw [writes.eq_digitsValue] at readsBack
  obtain ⟨nearest, isNearest⟩ :=
    format.exists_magnitude_nearestRank_eq (readsBack.trans_lt finite)
  rw [readsBack] at isNearest
  exact noNatural nearest isNearest

theorem point_mem_signedChars
    (negative : Bool)
    (whole : List Char)
    {fraction : List Char}
    (hasFraction : fraction ≠ []) :
    '.' ∈ Text.signedChars negative (FloatStyle.plain.joinPoint whole fraction) := by
  have isPoint : '.' ∈ FloatStyle.plain.joinPoint whole fraction := by
    rw [FloatStyle.joinPoint, if_neg (by simpa using hasFraction)]
    exact List.mem_append_right whole List.mem_cons_self
  cases negative with
  | false => exact isPoint
  | true => exact List.mem_cons_of_mem _ isPoint

/-- The text of a float without an integer value does not read as an integer. -/
theorem readInt?_toText_eq_none
    (separates : format.SeparatesDigits)
    {float : Floating format}
    (noInteger : ∀ exact : Int, float.toRat? ≠ some (exact : Rat)) :
    Text.readInt? float.toText.toList = none := by
  cases isValue : float.toRat? with
  | none =>
      rcases toText_of_toRat?_eq_none isValue with isText | isText | isText <;>
        rw [isText] <;> decide
  | some value =>
      obtain ⟨negative, rank, finite, rfl, _⟩ := toRat?_eq_some isValue
      have noNatural := magnitude_ne_natCast finite noInteger
      have positive : 0 < rank := by
        refine Nat.pos_of_ne_zero ?_
        rintro rfl
        exact noNatural 0 (format.magnitude_zero.trans Nat.cast_zero.symm)
      obtain ⟨coefficient, place, whole, fraction, isShortest, writes, isText⟩ :=
        exists_writes_toText separates positive finite negative
      have hasFraction := fraction_ne_nil isShortest writes finite noNatural
      have hasPoint := point_mem_signedChars negative whole hasFraction
      exact Text.readInt?_eq_none (isText ▸ hasPoint) rfl (by decide) (by decide)

/-- The text of a float has no blank characters. -/
theorem trimChars_toText (separates : format.SeparatesDigits) (float : Floating format) :
    Text.trimChars float.toText.toList = float.toText.toList := by
  cases isValue : float.toRat? with
  | none =>
      rcases toText_of_toRat?_eq_none isValue with isText | isText | isText <;>
        rw [isText] <;> decide
  | some value =>
      obtain ⟨negative, rank, finite, rfl, _⟩ := toRat?_eq_some isValue
      rcases Nat.eq_zero_or_pos rank with rfl | positive
      · rw [toText, text, if_neg finite.ne, if_pos rfl, String.toList_ofList]
        cases negative <;> rfl
      · obtain ⟨coefficient, place, whole, fraction, _, writes, isText⟩ :=
          exists_writes_toText separates positive finite negative
        refine Text.trimChars_eq_self fun char member => ?_
        rcases writes.mem_signedChars (isText ▸ member) with rfl | rfl | isDigit
        · rfl
        · rfl
        · exact Text.isBlank_of_isDigit isDigit

/-! ## When the text is exact -/

section Exact

variable {float : Floating format} {exact short : Int}

theorem equal_ofInt_of_toRat? (isExact : float.toRat? = some (exact : Rat)) :
    float.equal (.ofInt exact) = true := by
  rcases zero_or_signed_of_toRat? isExact with
    ⟨negative, rfl, rfl⟩ | ⟨negative, rank, number, finite, positive, rfl, isNumber, rfl⟩
  · exact (isShortestInteger_zero negative).readsBack
  · refine (equal_ofInt_iff positive).mpr ⟨number, rfl, ?_⟩
    rw [← isNumber]
    exact format.nearestRank_magnitude finite.le

/-- The shortest integer is the value exactly if no integer reads back that ends with
more zeros than the value. -/
theorem IsShortestInteger.eq_iff
    (isShortest : float.IsShortestInteger exact short)
    (isExact : float.toRat? = some (exact : Rat)) :
    short = exact ↔
      ∀ more other, (10 : Int) ^ more ≤ |exact| → ¬ (10 : Int) ^ more ∣ exact →
        (10 : Int) ^ more ∣ other → float.equal (.ofInt other) = false := by
  obtain ⟨zeros, isMultiple, isLess, coarsest, nearest⟩ := isShortest.exists_zeros
  constructor
  · rintro rfl more other isMore noMultiple isDivisor
    refine coarsest more other ?_ isMore isDivisor
    by_contra fewer
    exact noMultiple ((pow_dvd_pow 10 (not_lt.mp fewer)).trans isMultiple)
  · intro coarser
    have isMultipleToo : (10 : Int) ^ zeros ∣ exact := by
      by_contra noMultiple
      have nonzero : exact ≠ 0 := by
        rintro rfl
        exact noMultiple (dvd_zero _)
      have misses := coarser zeros short (isLess nonzero) noMultiple isMultiple
      rw [isShortest.readsBack] at misses
      cases misses
    have isNearest := nearest exact isMultipleToo (equal_ofInt_of_toRat? isExact)
    rw [sub_self, abs_zero] at isNearest
    exact (sub_eq_zero.mp (abs_nonpos_iff.mp isNearest)).symm

/-- The shortest integer is the value below two full binades. -/
theorem IsShortestInteger.eq_of_lt
    (isShortest : float.IsShortestInteger exact short)
    (isExact : float.toRat? = some (exact : Rat))
    (fine : format.leastExponent ≤ 0)
    (small : exact.natAbs < 2 * twoPow format.fractionBits) :
    short = exact := by
  rw [isShortest.eq_iff isExact]
  intro more other isMore noMultiple isDivisor
  rcases zero_or_signed_of_toRat? isExact with
    ⟨negative, rfl, rfl⟩ | ⟨negative, rank, number, finite, positive, rfl, isNumber, rfl⟩
  · exact absurd (dvd_zero _) noMultiple
  · refine Bool.eq_false_iff.mpr fun readsBack => noMultiple ?_
    obtain ⟨count, rfl, hits⟩ := (equal_ofInt_iff positive).mp readsBack
    rw [natAbs_signedInt] at small
    exact format.eq_of_nearestRank_eq fine finite isNumber small hits ▸ isDivisor

/-- The shortest integer is at most twice the value. -/
theorem IsShortestInteger.natAbs_le
    (isShortest : float.IsShortestInteger exact short)
    (isExact : float.toRat? = some (exact : Rat)) :
    short.natAbs ≤ 2 * exact.natAbs := by
  rcases zero_or_signed_of_toRat? isExact with
    ⟨negative, rfl, rfl⟩ | ⟨negative, rank, number, finite, positive, rfl, isNumber, rfl⟩
  · rw [(isShortest.eq_iff isExact).mpr fun more other _ noMultiple _ =>
      absurd (dvd_zero _) noMultiple]
    exact Nat.zero_le _
  · obtain ⟨count, rfl, hits⟩ := (equal_ofInt_iff positive).mp isShortest.readsBack
    have isLess := FloatFormat.lt_magnitude_succ finite hits
    have isTwice := format.spacing_le_magnitude positive
    rw [format.magnitude_succ] at isLess
    rw [isNumber] at isLess isTwice
    have isCount : (count : Rat) < 2 * number := by linarith
    rw [natAbs_signedInt, natAbs_signedInt]
    exact_mod_cast isCount.le

end Exact

end Floating
end RowBinding
