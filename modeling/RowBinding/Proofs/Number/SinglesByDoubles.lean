import RowBinding.Proofs.Number.Approximation
import RowBinding.Proofs.Number.FloatTexts

/-!
# Singles read as doubles

The shortest digits of a single, rounded to a double and then to a single, are
rounded to the same single in all cases but one.

Only a double on a midpoint of singles can be rounded elsewhere. The number that
has become this double is a count of units of some decimal place, and the place
is not fine: its unit is about the spacing of the singles or greater. In each
binade the count and the odd number of half spacings are then nearly in
proportion to the two units, up to a share of half a spacing that the precision
of the doubles limits. In all binades but one no two numbers of their size are
in this proportion, except where it is exact and nothing has been rounded at
all. In the remaining binade exactly one pair is.
-/

namespace RowBinding
namespace FloatFormat

variable
  {format : FloatFormat}
  {rank coefficient : Nat}
  {place : Int}

/-! ## Floats with an odd rank -/

theorem doublings_succ_of_mod_eq_one
    (fractional : 0 < format.fractionBits)
    (isOdd : (rank + 1) % 2 = 1) :
    format.doublings (rank + 1) = format.doublings rank := by
  have notFirst : ¬twoPow format.fractionBits ∣ rank + 1 := fun isMultiple => by
    have isEven : 2 ∣ rank + 1 := (dvd_pow_self 2 fractional.ne').trans isMultiple
    omega
  rw [doublings, doublings, Nat.succ_div_of_not_dvd notFirst]

theorem spacing_succ_of_mod_eq_one
    (fractional : 0 < format.fractionBits)
    (isOdd : (rank + 1) % 2 = 1) :
    format.spacing (rank + 1) = format.spacing rank := by
  rw [spacing, doublings_succ_of_mod_eq_one fractional isOdd, ← spacing]

/-- The shortest digits of a float with an odd rank are at most half a unit away from it,
as otherwise the next point of the grid would be nearer. -/
theorem IsShortest.two_mul_abs_sub_le
    (isShortest : format.IsShortest (rank + 1) coefficient place)
    (fractional : 0 < format.fractionBits)
    (finite : rank + 1 < format.infinityRank)
    (isOdd : (rank + 1) % 2 = 1) :
    2 * |format.magnitude (rank + 1) - coefficient * (10 : Rat) ^ place| ≤ 10 ^ place := by
  have unitPositive := unit_pos place
  have isLower := midpoint_le_of_nearestRank_eq isShortest.readsBack
  have isUpper := le_midpoint_of_nearestRank_eq finite isShortest.readsBack
  rw [midpoint_eq_sub] at isLower
  rw [midpoint, spacing_succ_of_mod_eq_one fractional isOdd] at isUpper
  -- A nearer point of the grid would be near enough to read back.
  have noNearer (other : Nat)
      (nearer : |format.magnitude (rank + 1) - other * (10 : Rat) ^ place| <
        |format.magnitude (rank + 1) - coefficient * (10 : Rat) ^ place|) : False := by
    refine absurd (isShortest.nearest (nearestRank_eq_of_abs_lt finite (nearer.trans_le ?_)))
      (not_le.mpr nearer)
    rw [abs_le]
    constructor <;> linarith
  by_contra isFar
  rw [not_le] at isFar
  rcases le_or_gt (coefficient * (10 : Rat) ^ place) (format.magnitude (rank + 1)) with
    below | above
  · rw [abs_of_nonneg (sub_nonneg.mpr below)] at isFar noNearer
    refine noNearer (coefficient + 1) ?_
    rw [Nat.cast_succ, add_one_mul, abs_lt]
    constructor <;> linarith
  · rw [abs_of_neg (sub_neg.mpr above)] at isFar noNearer
    have positive : 0 < coefficient := Nat.pos_of_ne_zero fun isZero => by
      rw [isZero, Nat.cast_zero, zero_mul] at above
      exact absurd above (not_lt.mpr (format.magnitude_nonneg _))
    refine noNearer (coefficient - 1) ?_
    rw [Nat.cast_pred positive, sub_one_mul, abs_lt]
    constructor <;> linarith

/-! ## The units of a binade -/

/-- The share of half a spacing of the singles that rounding to a double stays below. -/
def tieGap : Rat :=
  1 / 268435456

/-- Half of the spacing of the singles in a binade. -/
def halfSpacing (doublings : Nat) : Rat :=
  (2 : Rat) ^ (binary32.leastExponent + doublings - 1)

/-- What the units of shortest digits that become a double on a midpoint are longer than. -/
def leastUnit (doublings : Nat) : Rat :=
  (1 - tieGap) * (2 * halfSpacing doublings)

/-- The finest place of shortest digits that a double on a midpoint can come from. -/
def coarsePlace (doublings : Nat) : Int :=
  decimalExponent (leastUnit doublings) + 1

/-- How many half spacings a unit of this place is long. -/
def unitLength (doublings : Nat) : Rat :=
  (10 : Rat) ^ coarsePlace doublings / halfSpacing doublings

/-- The best fraction for the length of a unit among those of singles. -/
def unitFraction (doublings : Nat) : Fraction :=
  .approximating 33554432 (unitLength doublings)

theorem halfSpacing_pos (doublings : Nat) : 0 < halfSpacing doublings :=
  zpow_pos two_pos _

theorem spacing_div_two (rank : Nat) :
    binary32.spacing rank / 2 = halfSpacing (binary32.doublings rank) := by
  rw [spacing, halfSpacing, zpow_sub_one₀ two_ne_zero, div_eq_mul_inv]

theorem leastUnit_pos (doublings : Nat) : 0 < leastUnit doublings :=
  mul_pos (by norm_num [tieGap]) (mul_pos two_pos (halfSpacing_pos doublings))

theorem leastUnit_lt_tenPow (doublings : Nat) :
    leastUnit doublings < (10 : Rat) ^ coarsePlace doublings := by
  rw [coarsePlace, decimalExponent_eq_log (leastUnit_pos doublings)]
  exact_mod_cast Int.lt_zpow_succ_log_self (R := Rat) (b := 10) (by norm_num) _

theorem two_mul_lt_unitLength (doublings : Nat) : (1 - tieGap) * 2 < unitLength doublings := by
  rw [unitLength, lt_div_iff₀ (halfSpacing_pos doublings), mul_assoc]
  exact leastUnit_lt_tenPow doublings

theorem coarsePlace_le
    {doublings : Nat}
    (above : leastUnit doublings < (10 : Rat) ^ place) :
    coarsePlace doublings ≤ place := by
  rw [coarsePlace, decimalExponent_eq_log (leastUnit_pos doublings), Int.add_one_le_iff]
  refine (Int.lt_zpow_iff_log_lt (by norm_num) (leastUnit_pos doublings)).mp ?_
  exact_mod_cast above

section Binades

set_option maxRecDepth 20000

/-- In every binade of the singles the best fraction dominates the counts of units. -/
theorem unitFraction_dominates : ∀ doublings < 254,
    (unitFraction doublings).Dominates (unitLength doublings) 16777215 tieGap := by
  decide +kernel

/-- Only in one binade a count of units is near to a number of half spacings and not equal
to it. -/
theorem unitFraction_apart : ∀ doublings < 254, doublings ≠ 42 →
    (unitFraction doublings).error (unitLength doublings) = 0 ∨
      tieGap ≤ (unitFraction doublings).error (unitLength doublings) ∨
      33554432 ≤ (unitFraction doublings).numerator := by
  decide +kernel

theorem unitFraction_drifting : unitFraction 42 = ⟨22841339, 7038531⟩ := by
  decide +kernel

end Binades

theorem doublings_lt (finite : rank < binary32.infinityRank) : binary32.doublings rank < 254 := by
  have isLess : rank / twoPow 23 < 255 := Nat.div_lt_of_lt_mul finite
  exact show rank / twoPow 23 - 1 < 254 by omega

/-! ## Doubles on a midpoint of singles -/

/-- A count of units near to an odd number of half spacings equals it, except for one
pair. -/
theorem eq_mul_or_of_near
    {doublings count whole : Nat}
    (isBinade : doublings < 254)
    (positive : 0 < whole)
    (isWhole : whole < 33554432)
    (near : |count * unitLength doublings - whole| < tieGap) :
    count * unitLength doublings = whole ∨ doublings = 42 ∧ whole = 22841339 := by
  have dominates := unitFraction_dominates doublings isBinade
  have countPositive : 0 < count := Nat.pos_of_ne_zero fun isZero => by
    have isOne : (1 : Rat) ≤ whole := Nat.one_le_cast.mpr positive
    rw [isZero, Nat.cast_zero, zero_mul, zero_sub, abs_neg, Nat.abs_cast, tieGap] at near
    linarith
  have isCount : count ≤ 16777215 := by
    by_contra isMore
    have isMost : (whole : Rat) ≤ 33554431 := by exact_mod_cast Nat.le_of_lt_succ isWhole
    have isLeast : (16777216 : Rat) ≤ count := by exact_mod_cast Nat.lt_of_not_le isMore
    have isLess : 16777216 * ((1 - tieGap) * 2) ≤ count * unitLength doublings :=
      mul_le_mul isLeast (two_mul_lt_unitLength doublings).le (by norm_num [tieGap])
        (Nat.cast_nonneg count)
    have isNear := (abs_lt.mp near).2
    rw [tieGap] at isNear isLess
    linarith
  by_cases drifting : doublings = 42
  · subst drifting
    obtain ⟨times, rfl, rfl⟩ := dominates.exists_eq_mul isCount near
    rw [unitFraction_drifting] at countPositive isWhole ⊢
    dsimp only at countPositive isWhole ⊢
    exact .inr ⟨rfl, by omega⟩
  · exact .inl (dominates.mul_eq (unitFraction_apart doublings isBinade drifting)
      countPositive isCount isWhole near)

/-- Shortest digits that become a double on a midpoint next to a single with an odd rank
stand on a midpoint themselves, except for one midpoint. -/
theorem eq_midpoint_or_of_abs_lt
    {tied : Nat}
    (finite : tied < binary32.infinityRank)
    (near : |coefficient * (10 : Rat) ^ place - binary32.midpoint tied| <
      tieGap * halfSpacing (binary32.doublings tied))
    (far : leastUnit (binary32.doublings tied) < (10 : Rat) ^ place) :
    coefficient * (10 : Rat) ^ place = binary32.midpoint tied ∨
      binary32.doublings tied = 42 ∧ 2 * binary32.significand tied + 1 = 22841339 := by
  have isPlace := coarsePlace_le far
  have isBinade := doublings_lt finite
  have isWhole : 2 * binary32.significand tied + 1 < 33554432 := by
    have isLess : binary32.significand tied < 2 * 8388608 := binary32.significand_lt tied
    omega
  have isPositive : 0 < 2 * binary32.significand tied + 1 := Nat.succ_pos _
  rw [midpoint_eq_mul, spacing_div_two] at near ⊢
  generalize 2 * binary32.significand tied + 1 = whole at near isWhole isPositive ⊢
  generalize binary32.doublings tied = doublings at near far isPlace isBinade ⊢
  have halfPositive := halfSpacing_pos doublings
  -- The digits as a count of units of the coarse place.
  obtain ⟨zeros, isZeros⟩ := Int.eq_ofNat_of_zero_le (sub_nonneg.mpr isPlace)
  have isUnit : unitLength doublings * halfSpacing doublings =
      (10 : Rat) ^ coarsePlace doublings :=
    div_mul_cancel₀ _ halfPositive.ne'
  have isCount : coefficient * (10 : Rat) ^ place =
      (coefficient * 10 ^ zeros : Nat) * unitLength doublings * halfSpacing doublings := by
    rw [mul_assoc, isUnit, ← natCast_mul_tenPow, mul_assoc, ← zpow_add₀ (by norm_num)]
    congr 2
    omega
  rw [isCount] at near ⊢
  generalize coefficient * 10 ^ zeros = count at near ⊢
  have isNear : |count * unitLength doublings - whole| < tieGap := by
    rw [← sub_mul, abs_mul, abs_of_pos halfPositive] at near
    exact lt_of_mul_lt_mul_right near halfPositive.le
  rcases eq_mul_or_of_near isBinade isPositive isWhole isNear with same | drifting
  · exact .inl (by rw [same])
  · exact .inr drifting

/-- The rank of the only single whose shortest digits become a midpoint as a double and
are not on one themselves. -/
def driftingRank : Nat :=
  363742205

/-- The digits of a single with an odd rank become no double on a midpoint next to it,
unless nothing is rounded. -/
theorem IsShortest.nearest_ne_midpoint
    {tied : Nat}
    (isShortest : binary32.IsShortest (rank + 1) coefficient place)
    (finite : rank + 1 < binary32.infinityRank)
    (isOdd : (rank + 1) % 2 = 1)
    (rounds : binary64.nearest (coefficient * (10 : Rat) ^ place) ≠
      coefficient * (10 : Rat) ^ place)
    (adjacent : tied = rank ∨ tied = rank + 1)
    (noDrift : tied ≠ driftingRank) :
    binary64.nearest (coefficient * (10 : Rat) ^ place) ≠ binary32.midpoint tied := by
  intro onMidpoint
  have fractional := bisects_binary32_binary64.fractional
  have tiedFinite : tied < binary32.infinityRank := by omega
  have isSpacing : binary32.spacing tied = binary32.spacing rank := by
    rcases adjacent with rfl | rfl
    · rfl
    · exact spacing_succ_of_mod_eq_one fractional isOdd
  have isHalf := spacing_div_two tied
  have isClose : |coefficient * (10 : Rat) ^ place - binary32.midpoint tied| <
      tieGap * halfSpacing (binary32.doublings tied) := by
    have small : binary32.midpoint tied <
        2 * twoPow binary32.fractionBits * binary32.spacing tied :=
      (binary32.midpoint_lt_magnitude tied).trans_le (binary32.magnitude_succ_le tied)
    have isLess := bisects_binary32_binary64.abs_sub_nearest_lt
      (mul_nonneg (Nat.cast_nonneg coefficient) (unit_pos place).le)
      (bisects_binary32_binary64.nearestRank_lt finite isShortest.readsBack)
      (onMidpoint.trans_lt small)
    rw [onMidpoint, show twoPow binary64.fractionBits = 4503599627370496 from rfl,
      show twoPow binary32.fractionBits = 8388608 from rfl] at isLess
    rw [← isHalf, tieGap]
    push_cast at isLess
    linarith
  have isFar : leastUnit (binary32.doublings tied) < (10 : Rat) ^ place := by
    have isUnit := isShortest.two_mul_abs_sub_le fractional finite isOdd
    have isApart : |binary32.magnitude (rank + 1) - binary32.midpoint tied| =
        binary32.spacing tied / 2 := by
      rcases adjacent with rfl | rfl
      · rw [midpoint_eq_sub, sub_sub_cancel, abs_of_pos (half_pos (binary32.spacing_pos tied))]
      · rw [midpoint, sub_add_cancel_left, abs_neg,
          abs_of_pos (half_pos (binary32.spacing_pos _))]
    have isSum := abs_sub_le (binary32.magnitude (rank + 1)) (coefficient * (10 : Rat) ^ place)
      (binary32.midpoint tied)
    rw [isApart, isHalf] at isSum
    rw [leastUnit]
    linarith
  rcases eq_midpoint_or_of_abs_lt tiedFinite isClose isFar with same | ⟨isBinade, isWhole⟩
  · exact rounds (onMidpoint.trans same.symm)
  · have isRank := binary32.significand_add tied
    rw [isBinade, show twoPow binary32.fractionBits = 8388608 from rfl] at isRank
    exact noDrift (by unfold driftingRank; omega)

theorem IsShortest.nearestRank_lt
    (isShortest : binary32.IsShortest rank coefficient place)
    (positive : 0 < rank)
    (finite : rank < binary32.infinityRank) :
    binary64.nearestRank (coefficient * (10 : Rat) ^ place) < binary64.infinityRank := by
  obtain ⟨below, rfl⟩ := Nat.exists_eq_succ_of_ne_zero positive.ne'
  exact bisects_binary32_binary64.nearestRank_lt finite isShortest.readsBack

/-- The shortest digits of a single, read as a double, are rounded back to the single. -/
theorem IsShortest.nearestRank_nearest
    (isShortest : binary32.IsShortest rank coefficient place)
    (positive : 0 < rank)
    (finite : rank < binary32.infinityRank)
    (noDrift : rank ≠ driftingRank) :
    binary32.nearestRank (binary64.nearest (coefficient * (10 : Rat) ^ place)) = rank := by
  obtain ⟨below, rfl⟩ := Nat.exists_eq_succ_of_ne_zero positive.ne'
  refine bisects_binary32_binary64.nearestRank_nearest finite isShortest.readsBack
    fun isOdd rounds => ⟨?_, ?_⟩
  · refine isShortest.nearest_ne_midpoint finite isOdd rounds (.inl rfl) ?_
    -- The rank below is even, and the drifting one is odd.
    unfold driftingRank
    omega
  · exact isShortest.nearest_ne_midpoint finite isOdd rounds (.inr rfl) noDrift

end FloatFormat

namespace Floating

open FloatFormat (driftingRank)

/-! ## Texts of singles -/

/-- The singles, one of each sign, whose texts lead to another single when read as
doubles. -/
def Drifts : Float32Value → Prop
  | .nan => False
  | .signed _ rank _ => rank = driftingRank

/-- A single of the drifting rank comes out of its text as the next one. -/
theorem toFormat_read?_toText_drifting (negative : Bool) :
    (read? (signed negative driftingRank (by decide) : Float32Value).toText.toList :
        Option Float64Value).map (toFormat binary32) =
      some (signed negative (driftingRank + 1) (by decide)) := by
  cases negative <;> decide +kernel

theorem toFormat_round
    {source target : FloatFormat}
    {value : Rat}
    (negative : Bool)
    (finite : source.nearestRank value < source.infinityRank) :
    (round negative value : Floating source).toFormat target =
      round negative (source.nearest value) := by
  rw [round, toFormat, if_neg finite.ne, FloatFormat.nearest]

/-- The text of a single, read as a double, leads back to the single unless it drifts. -/
theorem exists_toFormat_read?_toText_iff (float : Float32Value) :
    ∃ double : Float64Value, read? float.toText.toList = some double ∧
      (double.toFormat binary32 = float ↔ ¬float.Drifts) := by
  cases float with
  | nan => exact ⟨nan, read?_toText_nan, iff_of_true rfl not_false⟩
  | signed negative rank bounded =>
      rcases bounded.eq_or_lt with rfl | finite
      · have noDrift : binary32.infinityRank ≠ driftingRank := by decide
        refine ⟨infinity negative, read?_toText_infinity negative, iff_of_true ?_ noDrift⟩
        rw [infinity, toFormat, if_pos rfl, infinity]
      rcases Nat.eq_zero_or_pos rank with rfl | positive
      · have noDrift : 0 ≠ driftingRank := by decide
        refine ⟨zero negative, read?_toText_zero negative finite, iff_of_true ?_ noDrift⟩
        rw [zero, toFormat, if_neg (by decide)]
        exact round_eq_signed _ (binary32.nearestRank_of_nonpos binary64.magnitude_zero.le)
      by_cases drifts : rank = driftingRank
      · subst drifts
        obtain ⟨double, reads, isNext⟩ :=
          Option.map_eq_some_iff.mp (toFormat_read?_toText_drifting negative)
        refine ⟨double, reads, iff_of_false ?_ (not_not.mpr rfl)⟩
        rw [isNext]
        exact fun same => absurd (signed.inj same).2 (by decide)
      · obtain ⟨coefficient, place, isShortest, reads⟩ :=
          exists_read?_toText_signed FloatFormat.endsBeforePlaces_binary64
            FloatFormat.separatesDigits_binary32 positive finite negative
        refine ⟨_, reads, iff_of_true ?_ drifts⟩
        rw [toFormat_round negative (isShortest.nearestRank_lt positive finite),
          round_eq_signed bounded (isShortest.nearestRank_nearest positive finite drifts)]

end Floating
end RowBinding
