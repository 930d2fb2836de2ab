import Mathlib.Algebra.Order.Archimedean.Basic
import Mathlib.Algebra.Order.Field.Basic
import Mathlib.Data.Int.Log
import Mathlib.Order.Monotone.Basic
import RowBinding.Number.Floating
import RowBinding.Proofs.Number.Rounding

/-!
# Floats by rank

Neighbouring floats lie apart by a power of two, which doubles from one binade
to the next. Every number lies between two neighbours, its nearest rank is the
rank of one of the two, and a larger number has no smaller nearest rank. So the
numbers that read back as one float form an interval around it, which reaches
half of the spacing below the float to either side.

A natural number never reads back as a float that is not one.
-/

namespace RowBinding

theorem natCast_twoPow (exponent : Nat) :
    ((twoPow exponent : Nat) : Rat) = (2 : Rat) ^ (exponent : Int) := by
  rw [zpow_natCast]
  exact Nat.cast_pow 2 exponent

theorem natCast_tenPow (exponent : Nat) :
    ((tenPow exponent : Nat) : Rat) = (10 : Rat) ^ (exponent : Int) := by
  rw [zpow_natCast]
  exact Nat.cast_pow 10 exponent

theorem natCast_mul_tenPow (count zeros : Nat) :
    (count : Rat) * (10 : Rat) ^ (zeros : Int) = ((count * 10 ^ zeros : Nat) : Rat) := by
  rw [zpow_natCast, Nat.cast_mul, Nat.cast_pow]
  rfl

/-! ## Leading digits -/

theorem decimalLength_eq (number : Nat) : decimalLength number = Nat.log 10 number + 1 := by
  have isLength {digits : Nat} (positive : 0 < digits) :
      decimalLength number ≤ digits ↔ number < 10 ^ digits :=
    Nat.length_toDigits_le_iff (by norm_num) positive
  refine le_antisymm ((isLength (Nat.succ_pos _)).mpr ?_) (Nat.succ_le_of_lt ?_)
  · exact Nat.lt_pow_succ_log_self (by norm_num) number
  · have positive : 0 < decimalLength number := Nat.length_toDigits_pos
    exact Nat.log_lt_of_lt_pow' positive.ne' ((isLength positive).mp le_rfl)

section Leading

variable {value : Rat}

theorem mul_den_eq_natAbs_num (positive : 0 < value) :
    value * value.den = value.num.natAbs := by
  rw [Rat.mul_den_eq_num, Nat.cast_natAbs, abs_of_pos (Rat.num_pos.mpr positive)]

theorem log_num_sub_log_den_le
    {base : Nat}
    (isBase : 1 < base)
    (positive : 0 < value) :
    (Nat.log base value.num.natAbs - Nat.log base value.den : Int) - 1 ≤ Int.log base value := by
  have basePositive : (0 : Rat) < base := by
    exact_mod_cast Nat.zero_lt_of_lt isBase
  have numNonzero : value.num.natAbs ≠ 0 :=
    Int.natAbs_ne_zero.mpr (Rat.num_pos.mpr positive).ne'
  have isNum : (base : Rat) ^ (Nat.log base value.num.natAbs : Int) ≤ value * value.den := by
    rw [mul_den_eq_natAbs_num positive, zpow_natCast]
    exact_mod_cast Nat.pow_log_le_self base numNonzero
  have isDen : (value.den : Rat) < (base : Rat) ^ (Nat.log base value.den + 1 : Int) := by
    exact_mod_cast Nat.lt_pow_succ_log_self isBase value.den
  set guess : Int := Nat.log base value.num.natAbs - Nat.log base value.den with isGuess
  rw [← Int.zpow_le_iff_le_log isBase positive]
  refine le_of_mul_le_mul_right ?_ (Nat.cast_pos.mpr value.den_pos)
  calc (base : Rat) ^ (guess - 1) * value.den
      ≤ (base : Rat) ^ (guess - 1) * (base : Rat) ^ (Nat.log base value.den + 1 : Int) :=
        mul_le_mul_of_nonneg_left isDen.le (zpow_pos basePositive _).le
    _ = (base : Rat) ^ (Nat.log base value.num.natAbs : Int) := by
        rw [← zpow_add₀ basePositive.ne', isGuess]
        congr 1
        ring
    _ ≤ value * value.den := isNum

theorem log_lt_log_num_sub_log_den
    {base : Nat}
    (isBase : 1 < base)
    (positive : 0 < value) :
    Int.log base value < (Nat.log base value.num.natAbs - Nat.log base value.den : Int) + 1 := by
  have basePositive : (0 : Rat) < base := by
    exact_mod_cast Nat.zero_lt_of_lt isBase
  have isNum :
      value * value.den < (base : Rat) ^ (Nat.log base value.num.natAbs + 1 : Int) := by
    rw [mul_den_eq_natAbs_num positive]
    exact_mod_cast Nat.lt_pow_succ_log_self isBase value.num.natAbs
  have isDen : (base : Rat) ^ (Nat.log base value.den : Int) ≤ value.den := by
    rw [zpow_natCast]
    exact_mod_cast Nat.pow_log_le_self base value.den_nz
  set guess : Int := Nat.log base value.num.natAbs - Nat.log base value.den with isGuess
  rw [← Int.lt_zpow_iff_log_lt isBase positive]
  refine lt_of_mul_lt_mul_right ?_ (Nat.cast_pos.mpr value.den_pos).le
  calc value * value.den
      < (base : Rat) ^ (Nat.log base value.num.natAbs + 1 : Int) := isNum
    _ = (base : Rat) ^ (guess + 1) * (base : Rat) ^ (Nat.log base value.den : Int) := by
        rw [← zpow_add₀ basePositive.ne', isGuess]
        congr 1
        ring
    _ ≤ (base : Rat) ^ (guess + 1) * value.den :=
        mul_le_mul_of_nonneg_left isDen (zpow_pos basePositive _).le

/-- The leading digits of numerator and denominator leave two places for that of a
positive number. -/
theorem log_eq_ite
    {base : Nat}
    (isBase : 1 < base)
    (positive : 0 < value)
    {guess : Int}
    (isGuess : guess = Nat.log base value.num.natAbs - Nat.log base value.den) :
    Int.log base value = if (base : Rat) ^ guess ≤ value then guess else guess - 1 := by
  have above := log_num_sub_log_den_le isBase positive
  have below := log_lt_log_num_sub_log_den isBase positive
  rw [← isGuess] at above below
  split_ifs with isLeast
  · rw [Int.zpow_le_iff_le_log isBase positive] at isLeast
    omega
  · rw [Int.zpow_le_iff_le_log isBase positive] at isLeast
    omega

theorem binaryExponent_eq_log (positive : 0 < value) :
    binaryExponent value = Int.log 2 value := by
  rw [log_eq_ite one_lt_two positive rfl, binaryExponent, Nat.log2_eq_log_two,
    Nat.log2_eq_log_two]
  rfl

theorem decimalExponent_eq_log (positive : 0 < value) :
    decimalExponent value = Int.log 10 value := by
  have isGuess : (decimalLength value.num.natAbs : Int) - decimalLength value.den =
      Nat.log 10 value.num.natAbs - Nat.log 10 value.den := by
    rw [decimalLength_eq, decimalLength_eq]
    push_cast
    ring
  exact (log_eq_ite (by norm_num) positive isGuess).symm

theorem decimalExponent_natCast {number : Nat} (positive : 0 < number) :
    decimalExponent (number : Rat) = (Nat.log 10 number : Nat) := by
  rw [decimalExponent_eq_log (Nat.cast_pos.mpr positive), Int.log_natCast]

end Leading

namespace FloatFormat

variable (format : FloatFormat)

/-! ## Spacing -/

/-- How often the spacing of the floats has doubled up to a rank. -/
def doublings (rank : Nat) : Nat :=
  rank / twoPow format.fractionBits - 1

/-- How far the float of a rank is from the next one. -/
def spacing (rank : Nat) : Rat :=
  (2 : Rat) ^ (format.leastExponent + format.doublings rank)

/-- How many spacings the float of a rank is from zero. -/
def significand (rank : Nat) : Nat :=
  rank - format.doublings rank * twoPow format.fractionBits

theorem spacing_pos (rank : Nat) : 0 < format.spacing rank :=
  zpow_pos (by norm_num) _

theorem doublings_mono : Monotone format.doublings := fun _ _ isLess =>
  Nat.sub_le_sub_right (Nat.div_le_div_right isLess) 1

theorem doublings_succ_le (rank : Nat) :
    format.doublings (rank + 1) ≤ format.doublings rank + 1 := by
  unfold doublings
  rw [Nat.succ_div]
  split_ifs <;> omega

theorem spacing_mono : Monotone format.spacing := fun _ _ isLess =>
  zpow_le_zpow_right₀ one_le_two
    (Int.add_le_add_left (Int.ofNat_le.mpr (format.doublings_mono isLess)) _)

theorem significand_add (rank : Nat) :
    format.significand rank + format.doublings rank * twoPow format.fractionBits = rank := by
  refine Nat.sub_add_cancel ?_
  calc format.doublings rank * twoPow format.fractionBits
      ≤ rank / twoPow format.fractionBits * twoPow format.fractionBits :=
        Nat.mul_le_mul_right _ (Nat.sub_le _ 1)
    _ ≤ rank := Nat.div_mul_le_self _ _

theorem significand_lt (rank : Nat) :
    format.significand rank < 2 * twoPow format.fractionBits := by
  have isRest := Nat.mod_lt rank (twoPow_pos format.fractionBits)
  have isWhole := Nat.div_add_mod' rank (twoPow format.fractionBits)
  have isSum := format.significand_add rank
  unfold doublings at isSum
  generalize rank / twoPow format.fractionBits = binade at isWhole isSum
  cases binade with
  | zero => omega
  | succ binade =>
      rw [Nat.succ_mul] at isWhole
      rw [Nat.succ_sub_one] at isSum
      omega

theorem le_significand {rank : Nat} (doubled : 0 < format.doublings rank) :
    twoPow format.fractionBits ≤ format.significand rank := by
  have isWhole := Nat.div_add_mod' rank (twoPow format.fractionBits)
  have isSum := format.significand_add rank
  unfold doublings at isSum doubled
  generalize rank / twoPow format.fractionBits = binade at isWhole isSum doubled
  cases binade with
  | zero => omega
  | succ binade =>
      rw [Nat.succ_mul] at isWhole
      rw [Nat.succ_sub_one] at isSum
      omega

theorem magnitude_eq (rank : Nat) :
    format.magnitude rank = format.significand rank * format.spacing rank := by
  have isWhole := Nat.div_add_mod' rank (twoPow format.fractionBits)
  have isSum := format.significand_add rank
  unfold magnitude spacing
  unfold doublings at isSum ⊢
  generalize rank / twoPow format.fractionBits = binade at isWhole isSum ⊢
  cases binade with
  | zero =>
      have isRank : format.significand rank = rank := by omega
      rw [isRank]
      simp
  | succ binade =>
      rw [Nat.succ_mul] at isWhole
      rw [Nat.succ_sub_one] at isSum ⊢
      have isSignificand : format.significand rank =
          twoPow format.fractionBits + rank % twoPow format.fractionBits := by omega
      rw [isSignificand, if_neg (Nat.succ_ne_zero binade)]
      congr 2
      push_cast
      ring

theorem magnitude_zero : format.magnitude 0 = 0 := by
  have isZero : format.significand 0 = 0 := Nat.le_zero.mp (Nat.sub_le 0 _)
  rw [magnitude_eq, isZero, Nat.cast_zero, zero_mul]

/-- Also where a binade begins, the floats are one spacing apart. -/
theorem magnitude_succ (rank : Nat) :
    format.magnitude (rank + 1) = format.magnitude rank + format.spacing rank := by
  have isSum := format.significand_add rank
  have isNext := format.significand_add (rank + 1)
  rw [magnitude_eq, magnitude_eq]
  rcases (format.doublings_mono (Nat.le_add_right rank 1)).eq_or_lt with same | doubled
  · have isSuccessor : format.significand (rank + 1) = format.significand rank + 1 := by
      rw [← same] at isNext
      omega
    rw [isSuccessor, spacing, spacing, ← same]
    push_cast
    ring
  · have isSucc : format.doublings (rank + 1) = format.doublings rank + 1 :=
      le_antisymm (format.doublings_succ_le rank) doubled
    have isLess := format.significand_lt rank
    have isLarge := format.le_significand (Nat.zero_lt_of_lt doubled)
    rw [isSucc, Nat.succ_mul] at isNext
    have isFirst : format.significand (rank + 1) = twoPow format.fractionBits := by omega
    have isLast : format.significand rank + 1 = 2 * twoPow format.fractionBits := by omega
    have isTwice : format.spacing (rank + 1) = 2 * format.spacing rank := by
      rw [spacing, spacing, isSucc, Nat.cast_succ, ← add_assoc, zpow_add_one₀ two_ne_zero,
        mul_comm]
    calc (format.significand (rank + 1) : Rat) * format.spacing (rank + 1)
        = ((2 * twoPow format.fractionBits : Nat) : Rat) * format.spacing rank := by
          rw [isFirst, isTwice]
          push_cast
          ring
      _ = format.significand rank * format.spacing rank + format.spacing rank := by
          rw [← isLast]
          push_cast
          ring

theorem magnitude_strictMono : StrictMono format.magnitude :=
  strictMono_nat_of_lt_succ fun rank => by
    rw [magnitude_succ]
    exact lt_add_of_pos_right _ (format.spacing_pos rank)

theorem magnitude_pos {rank : Nat} (positive : 0 < rank) : 0 < format.magnitude rank := by
  rw [← format.magnitude_zero]
  exact format.magnitude_strictMono positive

theorem magnitude_nonneg (rank : Nat) : 0 ≤ format.magnitude rank := by
  rw [← format.magnitude_zero]
  exact format.magnitude_strictMono.monotone (Nat.zero_le rank)

/-- A float is at most two full binades of spacings below it from zero. -/
theorem magnitude_succ_le (rank : Nat) :
    format.magnitude (rank + 1) ≤
      2 * twoPow format.fractionBits * format.spacing rank := by
  have isLess : (format.significand rank : Rat) + 1 ≤ 2 * twoPow format.fractionBits := by
    exact_mod_cast format.significand_lt rank
  rw [magnitude_succ, magnitude_eq, ← add_one_mul]
  exact mul_le_mul_of_nonneg_right isLess (format.spacing_pos rank).le

/-! ## Between two floats -/

/-- A number lies at the float of a rank or between it and the next one. -/
def Between (rank : Nat) (value : Rat) : Prop :=
  format.magnitude rank ≤ value ∧ value < format.magnitude (rank + 1)

theorem mul_le_magnitude (rank : Nat) :
    rank * (2 : Rat) ^ format.leastExponent ≤ format.magnitude rank := by
  induction rank with
  | zero => rw [magnitude_zero, Nat.cast_zero, zero_mul]
  | succ rank inductionHypothesis =>
      have isSpacing : (2 : Rat) ^ format.leastExponent ≤ format.spacing rank :=
        zpow_le_zpow_right₀ one_le_two (by omega)
      rw [magnitude_succ, Nat.cast_succ, add_one_mul]
      exact add_le_add inductionHypothesis isSpacing

theorem exists_between {value : Rat} (nonnegative : 0 ≤ value) :
    ∃ rank, format.Between rank value := by
  have unitPositive : (0 : Rat) < 2 ^ format.leastExponent := zpow_pos two_pos _
  obtain ⟨large, isLarge⟩ := exists_nat_gt (value / 2 ^ format.leastExponent)
  have exists_above : ∃ rank, value < format.magnitude rank :=
    ⟨large, ((div_lt_iff₀ unitPositive).mp isLarge).trans_le (format.mul_le_magnitude large)⟩
  have isAbove := Nat.find_spec exists_above
  cases isFirst : Nat.find exists_above with
  | zero =>
      rw [isFirst, magnitude_zero] at isAbove
      exact absurd nonnegative (not_le.mpr isAbove)
  | succ rank =>
      rw [isFirst] at isAbove
      exact ⟨rank, not_lt.mp (Nat.find_min exists_above (isFirst ▸ Nat.lt_succ_self rank)),
        isAbove⟩

section Between

variable {format} {rank : Nat} {value : Rat}

/-- The leading digit of a number decides in which spacings it is rounded. -/
theorem Between.exponent_eq (between : format.Between rank value) (positive : 0 < value) :
    max format.leastExponent (binaryExponent value - format.fractionBits) =
      format.leastExponent + format.doublings rank := by
  have isBinade (count : Int) : (2 : Rat) ^ count * format.spacing rank =
      (2 : Rat) ^ (count + (format.leastExponent + format.doublings rank)) :=
    (zpow_add₀ two_ne_zero _ _).symm
  have below : Int.log 2 value <
      1 + (format.fractionBits + (format.leastExponent + format.doublings rank)) := by
    rw [← Int.lt_zpow_iff_log_lt one_lt_two positive]
    refine between.2.trans_le ((format.magnitude_succ_le rank).trans_eq ?_)
    rw [natCast_twoPow, mul_assoc, isBinade, Nat.cast_two, zpow_one_add₀ two_ne_zero]
  rw [binaryExponent_eq_log positive]
  rcases Nat.eq_zero_or_pos (format.doublings rank) with isFirst | doubled
  · rw [isFirst] at below ⊢
    omega
  · have above : format.fractionBits + (format.leastExponent + format.doublings rank) ≤
        Int.log 2 value := by
      rw [← Int.zpow_le_iff_le_log one_lt_two positive, Nat.cast_two, ← isBinade,
        ← natCast_twoPow]
      refine le_trans ?_ between.1
      rw [magnitude_eq]
      exact mul_le_mul_of_nonneg_right (Nat.cast_le.mpr (format.le_significand doubled))
        (format.spacing_pos rank).le
    omega

theorem Between.nearestRank_eq (between : format.Between rank value) (positive : 0 < value) :
    format.nearestRank value =
      min (format.doublings rank * twoPow format.fractionBits +
        (Rounding.nearestEven (value / format.spacing rank)).toNat) format.infinityRank := by
  unfold nearestRank
  rw [if_neg (not_le.mpr positive)]
  dsimp only
  rw [between.exponent_eq positive, add_sub_cancel_left, Int.toNat_natCast]
  rfl

theorem Between.le_div (between : format.Between rank value) :
    ((format.significand rank : Int) : Rat) ≤ value / format.spacing rank := by
  rw [le_div_iff₀ (format.spacing_pos rank), Int.cast_natCast, ← magnitude_eq]
  exact between.1

theorem Between.div_lt (between : format.Between rank value) :
    value / format.spacing rank < ((format.significand rank : Int) : Rat) + 1 := by
  rw [div_lt_iff₀ (format.spacing_pos rank), Int.cast_natCast, add_one_mul, ← magnitude_eq,
    ← magnitude_succ]
  exact between.2

/-- How far a number is above the float of a rank, in spacings. -/
theorem div_sub_significand (value : Rat) :
    value / format.spacing rank - ((format.significand rank : Int) : Rat) =
      (value - format.magnitude rank) / format.spacing rank := by
  rw [sub_div, magnitude_eq, mul_div_cancel_right₀ _ (format.spacing_pos rank).ne',
    Int.cast_natCast]

/-- A number is rounded to the rank of one of the floats that it lies between. -/
theorem Between.nearestRank_eq_or
    (between : format.Between rank value)
    (positive : 0 < value) :
    format.nearestRank value = min rank format.infinityRank ∨
      format.nearestRank value = min (rank + 1) format.infinityRank := by
  have isSum := format.significand_add rank
  rw [between.nearestRank_eq positive]
  rcases Rounding.nearestEven_eq_or between.le_div between.div_lt with rounded | rounded
  · exact .inl (by rw [rounded, Int.toNat_natCast, add_comm, isSum])
  · exact .inr (by rw [rounded, ← Nat.cast_succ, Int.toNat_natCast]; congr 1; omega)

theorem Between.nearestRank_of_lower
    (between : format.Between rank value)
    (positive : 0 < value)
    (nearer : value - format.magnitude rank < format.spacing rank / 2) :
    format.nearestRank value = min rank format.infinityRank := by
  have lessThanHalf :
      value / format.spacing rank - ((format.significand rank : Int) : Rat) < 1 / 2 := by
    rw [div_sub_significand, div_lt_iff₀ (format.spacing_pos rank)]
    linarith
  rw [between.nearestRank_eq positive,
    Rounding.nearestEven_of_lt_half between.le_div lessThanHalf, Int.toNat_natCast, add_comm,
    significand_add]

theorem Between.nearestRank_of_upper
    (between : format.Between rank value)
    (positive : 0 < value)
    (nearer : format.magnitude (rank + 1) - value < format.spacing rank / 2) :
    format.nearestRank value = min (rank + 1) format.infinityRank := by
  have isSum := format.significand_add rank
  have moreThanHalf :
      1 / 2 < value / format.spacing rank - ((format.significand rank : Int) : Rat) := by
    rw [magnitude_succ] at nearer
    rw [div_sub_significand, lt_div_iff₀ (format.spacing_pos rank)]
    linarith
  rw [between.nearestRank_eq positive,
    Rounding.nearestEven_of_half_lt moreThanHalf between.div_lt, ← Nat.cast_succ,
    Int.toNat_natCast]
  congr 1
  omega

end Between

/-! ## The order of numbers and of ranks -/

theorem nearestRank_of_nonpos {value : Rat} (nonpositive : value ≤ 0) :
    format.nearestRank value = 0 :=
  if_pos nonpositive

theorem nearestRank_mono : Monotone format.nearestRank := by
  intro first second isLess
  rcases le_or_gt first 0 with nonpositive | positive
  · rw [format.nearestRank_of_nonpos nonpositive]
    exact Nat.zero_le _
  · have positiveSecond := positive.trans_le isLess
    obtain ⟨rank, between⟩ := format.exists_between positive.le
    obtain ⟨higher, betweenSecond⟩ := format.exists_between positiveSecond.le
    have isHigher : rank ≤ higher := by
      refine Nat.lt_succ_iff.mp (format.magnitude_strictMono.lt_iff_lt.mp ?_)
      exact between.1.trans_lt (isLess.trans_lt betweenSecond.2)
    rcases isHigher.lt_or_eq with apart | rfl
    · have lower : min (rank + 1) format.infinityRank ≤ min higher format.infinityRank :=
        min_le_min_right _ apart
      rcases between.nearestRank_eq_or positive with isFirst | isFirst <;>
        rcases betweenSecond.nearestRank_eq_or positiveSecond with isSecond | isSecond <;>
        omega
    · rw [between.nearestRank_eq positive, betweenSecond.nearestRank_eq positiveSecond]
      refine min_le_min_right _ (Nat.add_le_add_left (Int.toNat_le_toNat ?_) _)
      exact Rounding.nearestEven_mono (div_le_div_of_nonneg_right isLess
        (format.spacing_pos rank).le)

theorem nearestRank_magnitude_eq_min (rank : Nat) :
    format.nearestRank (format.magnitude rank) = min rank format.infinityRank := by
  rcases Nat.eq_zero_or_pos rank with rfl | positive
  · rw [format.nearestRank_of_nonpos format.magnitude_zero.le, Nat.zero_min]
  · have between : format.Between rank (format.magnitude rank) :=
      ⟨le_rfl, format.magnitude_strictMono (Nat.lt_succ_self rank)⟩
    refine between.nearestRank_of_lower (format.magnitude_pos positive) ?_
    rw [sub_self]
    exact half_pos (format.spacing_pos rank)

/-- A float reads back as itself. -/
theorem nearestRank_magnitude {rank : Nat} (bounded : rank ≤ format.infinityRank) :
    format.nearestRank (format.magnitude rank) = rank :=
  (format.nearestRank_magnitude_eq_min rank).trans (min_eq_left bounded)

section ReadsBack

variable {format} {rank : Nat} {value : Rat}

/-- What reads back as a finite float is below the next float. -/
theorem lt_magnitude_succ
    (finite : rank < format.infinityRank)
    (readsBack : format.nearestRank value = rank) :
    value < format.magnitude (rank + 1) := by
  by_contra above
  have isHigher := format.nearestRank_mono (not_lt.mp above)
  rw [format.nearestRank_magnitude finite, readsBack] at isHigher
  omega

/-- What reads back as a float other than zero is positive. -/
theorem pos_of_nearestRank
    (positive : 0 < rank)
    (readsBack : format.nearestRank value = rank) :
    0 < value := by
  by_contra nonpositive
  rw [format.nearestRank_of_nonpos (not_lt.mp nonpositive)] at readsBack
  omega

/-- A number nearer to a finite float than half of the spacing below it reads back. -/
theorem nearestRank_eq_of_abs_lt
    (finite : rank + 1 < format.infinityRank)
    (near : |format.magnitude (rank + 1) - value| < format.spacing rank / 2) :
    format.nearestRank value = rank + 1 := by
  have isNext := format.magnitude_succ rank
  have isAbove := format.magnitude_succ (rank + 1)
  have isLess := format.spacing_mono (Nat.le_add_right rank 1)
  have spacingPositive := format.spacing_pos rank
  have nonnegative := format.magnitude_nonneg rank
  obtain ⟨isUpper, isLower⟩ := abs_lt.mp near
  have positive : 0 < value := by linarith
  rcases lt_or_ge value (format.magnitude (rank + 1)) with below | above
  · have between : format.Between rank value := ⟨by linarith, below⟩
    rw [between.nearestRank_of_upper positive (by linarith), min_eq_left finite.le]
  · have between : format.Between (rank + 1) value := ⟨above, by linarith⟩
    rw [between.nearestRank_of_lower positive (by linarith), min_eq_left finite.le]

end ReadsBack

/-! ## Multiples of units -/

/-- Where the floats are at most a unit apart, every whole multiple of the unit is one. -/
theorem Between.multiple_eq_magnitude
    {format : FloatFormat}
    {rank count : Nat}
    {exponent : Int}
    (between : format.Between rank (count * (2 : Rat) ^ exponent))
    (narrow : format.leastExponent + format.doublings rank ≤ exponent) :
    count * (2 : Rat) ^ exponent = format.magnitude rank := by
  obtain ⟨halvings, isHalvings⟩ := Int.eq_ofNat_of_zero_le (sub_nonneg.mpr narrow)
  have isCount : count * (2 : Rat) ^ exponent / format.spacing rank =
      ((count * twoPow halvings : Nat) : Int) := by
    rw [spacing, mul_div_assoc, ← zpow_sub₀ two_ne_zero, isHalvings, Int.cast_natCast,
      Nat.cast_mul, natCast_twoPow]
  have isBelow := between.le_div
  have isAbove := between.div_lt
  rw [isCount] at isBelow isAbove
  have same : format.significand rank = count * twoPow halvings := by
    have below : (format.significand rank : Int) ≤ (count * twoPow halvings : Nat) := by
      exact_mod_cast isBelow
    have above : ((count * twoPow halvings : Nat) : Int) < format.significand rank + 1 := by
      exact_mod_cast isAbove
    omega
  rw [magnitude_eq, same, ← Int.cast_natCast (count * twoPow halvings), ← isCount,
    div_mul_cancel₀ _ (format.spacing_pos rank).ne']

/-- Where the floats are at most one apart, every natural number is one. -/
theorem Between.eq_magnitude
    {format : FloatFormat}
    {rank number : Nat}
    (between : format.Between rank number)
    (narrow : format.leastExponent + format.doublings rank ≤ 0) :
    (number : Rat) = format.magnitude rank := by
  have isMultiple : (number : Rat) * (2 : Rat) ^ (0 : Int) = number := by
    rw [zpow_zero, mul_one]
  rw [← isMultiple] at between ⊢
  exact between.multiple_eq_magnitude narrow

/-- The float nearest to a natural number is a natural number. -/
theorem exists_magnitude_nearestRank_eq
    {number : Nat}
    (finite : format.nearestRank number < format.infinityRank) :
    ∃ nearest : Nat, format.magnitude (format.nearestRank number) = nearest := by
  obtain ⟨rank, between⟩ := format.exists_between (Nat.cast_nonneg (α := Rat) number)
  rcases le_or_gt (format.leastExponent + format.doublings rank) 0 with narrow | wide
  · refine ⟨number, ?_⟩
    have isMagnitude := between.eq_magnitude narrow
    rw [isMagnitude, nearestRank_magnitude_eq_min] at finite ⊢
    rw [min_eq_left (by omega)]
  · -- From here on the floats are whole multiples of the spacing.
    obtain ⟨count, isCount⟩ := Int.eq_ofNat_of_zero_le wide.le
    have isNatural : format.magnitude rank = (format.significand rank * twoPow count : Nat) := by
      rw [magnitude_eq, spacing, isCount, Nat.cast_mul, natCast_twoPow]
    have isNaturalNext :
        format.magnitude (rank + 1) =
          (format.significand rank * twoPow count + twoPow count : Nat) := by
      rw [magnitude_succ, isNatural, spacing, isCount, Nat.cast_add, natCast_twoPow]
    rcases Nat.eq_zero_or_pos number with rfl | positive
    · refine ⟨0, ?_⟩
      rw [format.nearestRank_of_nonpos (Nat.cast_zero (R := Rat)).le, magnitude_zero,
        Nat.cast_zero]
    · rcases between.nearestRank_eq_or (Nat.cast_pos.mpr positive) with isLower | isUpper
      · rw [isLower] at finite ⊢
        rw [min_eq_left (by omega)]
        exact ⟨_, isNatural⟩
      · rw [isUpper] at finite ⊢
        rw [min_eq_left (by omega)]
        exact ⟨_, isNaturalNext⟩

/-- Multiples of a unit up to two full binades are floats, if the unit is not too small. -/
theorem Between.eq_magnitude_of_le
    {format : FloatFormat}
    {rank count : Nat}
    {exponent : Int}
    (between : format.Between rank (count * (2 : Rat) ^ exponent))
    (fine : format.leastExponent ≤ exponent)
    (small : count ≤ 2 * twoPow format.fractionBits) :
    count * (2 : Rat) ^ exponent = format.magnitude rank := by
  rcases le_or_gt (format.leastExponent + format.doublings rank) exponent with narrow | wide
  · exact between.multiple_eq_magnitude narrow
  · -- Floats that are more apart begin with two full binades.
    have doubled : 0 < format.doublings rank := by omega
    refine le_antisymm ?_ between.1
    calc count * (2 : Rat) ^ exponent
        ≤ (twoPow format.fractionBits : Rat) * 2 * (2 : Rat) ^ exponent := by
          refine mul_le_mul_of_nonneg_right ?_ (zpow_pos two_pos _).le
          rw [mul_comm]
          exact_mod_cast small
      _ = twoPow format.fractionBits * (2 : Rat) ^ (exponent + 1) := by
          rw [zpow_add_one₀ two_ne_zero, mul_assoc, mul_comm (2 : Rat)]
      _ ≤ format.significand rank * format.spacing rank :=
          mul_le_mul (Nat.cast_le.mpr (format.le_significand doubled))
            (zpow_le_zpow_right₀ one_le_two wide) (zpow_pos two_pos _).le (Nat.cast_nonneg _)
      _ = format.magnitude rank := (format.magnitude_eq rank).symm

/-- A multiple of a unit up to two full binades has a rank, if the unit is not too small. -/
theorem exists_magnitude_eq
    {count : Nat}
    {exponent : Int}
    (fine : format.leastExponent ≤ exponent)
    (small : count ≤ 2 * twoPow format.fractionBits) :
    ∃ rank, format.magnitude rank = count * (2 : Rat) ^ exponent := by
  have nonnegative : (0 : Rat) ≤ count * (2 : Rat) ^ exponent :=
    mul_nonneg (Nat.cast_nonneg count) (zpow_pos two_pos exponent).le
  obtain ⟨rank, between⟩ := format.exists_between nonnegative
  exact ⟨rank, (between.eq_magnitude_of_le fine small).symm⟩

/-- Natural numbers up to two full binades are floats. -/
theorem magnitude_nearestRank_of_le
    {number : Nat}
    (fine : format.leastExponent ≤ 0)
    (small : number ≤ 2 * twoPow format.fractionBits)
    (finite : format.nearestRank number < format.infinityRank) :
    format.magnitude (format.nearestRank number) = number := by
  obtain ⟨rank, isMultiple⟩ := format.exists_magnitude_eq fine small
  have isMagnitude : (number : Rat) = format.magnitude rank := by
    rw [isMultiple, zpow_zero, mul_one]
  rw [isMagnitude, nearestRank_magnitude_eq_min] at finite ⊢
  rw [min_eq_left (by omega)]

/-- No other natural number reads back as one below two full binades. -/
theorem eq_of_nearestRank_eq
    {rank number count : Nat}
    (fine : format.leastExponent ≤ 0)
    (finite : rank < format.infinityRank)
    (isNumber : format.magnitude rank = number)
    (small : number < 2 * twoPow format.fractionBits)
    (readsBack : format.nearestRank count = rank) :
    count = number := by
  rcases Nat.lt_or_ge (2 * twoPow format.fractionBits) count with large | isFloat
  · -- Then the two full binades would read back as well.
    have isRank := format.nearestRank_magnitude finite.le
    rw [isNumber] at isRank
    have above := format.nearestRank_mono (Nat.cast_le (α := Rat).mpr small.le)
    have below := format.nearestRank_mono (Nat.cast_le (α := Rat).mpr large.le)
    have same : format.nearestRank ((2 * twoPow format.fractionBits : Nat) : Rat) = rank := by
      omega
    have isBinades := format.magnitude_nearestRank_of_le fine le_rfl (same ▸ finite)
    rw [same, isNumber] at isBinades
    have isEqual : number = 2 * twoPow format.fractionBits := by
      exact_mod_cast isBinades
    omega
  · have isCount := format.magnitude_nearestRank_of_le fine isFloat (readsBack ▸ finite)
    rw [readsBack, isNumber] at isCount
    exact_mod_cast isCount.symm

end FloatFormat
end RowBinding
