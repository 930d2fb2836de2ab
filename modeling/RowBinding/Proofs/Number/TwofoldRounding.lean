import RowBinding.Proofs.Number.Midpoints

/-!
# Rounding twice

A format with more fraction bits than another one also has the midpoints between
the floats of that one. So a number that is first rounded to the finer format
stays between the midpoints around its float in the coarser one, and the second
rounding can only go elsewhere if the first one has moved the number onto a
midpoint of a float with an odd rank. It moves the number by less than half of
a spacing of the finer format.
-/

namespace RowBinding
namespace FloatFormat

/-- The value of the float nearest to a number. -/
def nearest (format : FloatFormat) (value : Rat) : Rat :=
  format.magnitude (format.nearestRank value)

theorem nearest_mono (format : FloatFormat) : Monotone format.nearest := fun _ _ isLess =>
  format.magnitude_strictMono.monotone (format.nearestRank_mono isLess)

/-- Every float of one format, and every midpoint between two of them, is a float of
another one. -/
structure Bisects (source target : FloatFormat) : Prop where
  fractional : 0 < source.fractionBits
  precise : source.fractionBits < target.fractionBits
  fine : target.leastExponent + target.fractionBits ≤ source.leastExponent + source.fractionBits
  large : source.magnitude source.infinityRank ≤ target.magnitude target.infinityRank

theorem bisects_binary32_binary64 : binary32.Bisects binary64 where
  fractional := by decide
  precise := by decide
  fine := by decide
  large := by decide +kernel

theorem twoPow_mono : Monotone twoPow := fun _ _ isLess =>
  Nat.pow_le_pow_right two_pos isLess

namespace Bisects

variable
  {source target : FloatFormat}
  {rank : Nat}
  {value : Rat}

/-- A midpoint of the coarser format has a rank in the finer one. -/
theorem exists_magnitude_eq_midpoint
    (bisects : source.Bisects target)
    (rank : Nat) :
    ∃ finer, target.magnitude finer = source.midpoint rank := by
  have isTwice : twoPow source.fractionBits * 2 ≤ twoPow target.fractionBits :=
    twoPow_mono bisects.precise
  have small : 2 * source.significand rank + 1 ≤ 2 * twoPow target.fractionBits := by
    have isLess := source.significand_lt rank
    omega
  have fine : target.leastExponent ≤ source.leastExponent + source.doublings rank - 1 := by
    have precise := bisects.precise
    have fine := bisects.fine
    omega
  obtain ⟨finer, isFiner⟩ := target.exists_magnitude_eq fine small
  refine ⟨finer, ?_⟩
  rw [isFiner, midpoint_eq_mul, spacing, zpow_sub_one₀ two_ne_zero, div_eq_mul_inv]

theorem midpoint_lt_magnitude_infinityRank
    (bisects : source.Bisects target)
    (finite : rank < source.infinityRank) :
    source.midpoint rank < target.magnitude target.infinityRank :=
  (source.midpoint_lt_magnitude rank).trans_le
    ((source.magnitude_strictMono.monotone finite).trans bisects.large)

/-- The midpoints around finite floats of the coarser format stay as they are in the finer
one. -/
theorem nearest_midpoint
    (bisects : source.Bisects target)
    (finite : rank < source.infinityRank) :
    target.nearest (source.midpoint rank) = source.midpoint rank := by
  obtain ⟨finer, isFiner⟩ := bisects.exists_magnitude_eq_midpoint rank
  have isLess := bisects.midpoint_lt_magnitude_infinityRank finite
  rw [← isFiner] at isLess ⊢
  have isFinite := target.magnitude_strictMono.lt_iff_lt.mp isLess
  rw [nearest, target.nearestRank_magnitude isFinite.le]

/-- Rounding to the finer format leaves a number between the midpoints around its float. -/
theorem nearest_mem
    (bisects : source.Bisects target)
    (finite : rank + 1 < source.infinityRank)
    (readsBack : source.nearestRank value = rank + 1) :
    source.midpoint rank ≤ target.nearest value ∧
      target.nearest value ≤ source.midpoint (rank + 1) := by
  constructor
  · rw [← bisects.nearest_midpoint (Nat.lt_of_succ_lt finite)]
    exact target.nearest_mono (midpoint_le_of_nearestRank_eq readsBack)
  · rw [← bisects.nearest_midpoint finite]
    exact target.nearest_mono (le_midpoint_of_nearestRank_eq finite readsBack)

/-- What reads back as a finite float of the coarser format is finite in the finer one. -/
theorem nearestRank_lt
    (bisects : source.Bisects target)
    (finite : rank + 1 < source.infinityRank)
    (readsBack : source.nearestRank value = rank + 1) :
    target.nearestRank value < target.infinityRank :=
  target.magnitude_strictMono.lt_iff_lt.mp
    ((bisects.nearest_mem finite readsBack).2.trans_lt
      (bisects.midpoint_lt_magnitude_infinityRank finite))

/-- A second rounding goes where the only one would, unless the first one has moved the
number onto a midpoint of a float with an odd rank. -/
theorem nearestRank_nearest
    (bisects : source.Bisects target)
    (finite : rank + 1 < source.infinityRank)
    (readsBack : source.nearestRank value = rank + 1)
    (noTie : (rank + 1) % 2 = 1 → target.nearest value ≠ value →
      target.nearest value ≠ source.midpoint rank ∧
        target.nearest value ≠ source.midpoint (rank + 1)) :
    source.nearestRank (target.nearest value) = rank + 1 := by
  obtain ⟨isLower, isUpper⟩ := bisects.nearest_mem finite readsBack
  by_cases same : target.nearest value = value
  · rw [same, readsBack]
  rcases isLower.eq_or_lt with onLower | above
  · -- A midpoint is rounded to the even rank, which is the one of the float.
    have isEven : (rank + 1) % 2 = 0 := by
      by_contra isOdd
      exact (noTie (by omega) same).1 onLower.symm
    rw [← onLower, nearestRank_midpoint bisects.fractional, min_eq_left (by omega)]
    omega
  · rcases isUpper.eq_or_lt with onUpper | below
    · have isEven : (rank + 1) % 2 = 0 := by
        by_contra isOdd
        exact (noTie (by omega) same).2 onUpper
      rw [onUpper, nearestRank_midpoint bisects.fractional, min_eq_left (by omega)]
      omega
    · exact nearestRank_eq_of_lt_of_lt (Nat.lt_of_succ_lt finite) above below

/-- The first rounding moves a number by as much less than the spacing of the coarser
format as the finer one has fraction bits more. -/
theorem abs_sub_nearest_lt
    (bisects : source.Bisects target)
    (nonnegative : 0 ≤ value)
    (finite : target.nearestRank value < target.infinityRank)
    (small : target.nearest value < 2 * twoPow source.fractionBits * source.spacing rank) :
    twoPow target.fractionBits * |value - target.nearest value| <
      twoPow source.fractionBits * source.spacing rank := by
  have isClose : |value - target.nearest value| ≤
      target.spacing (target.nearestRank value) / 2 :=
    abs_sub_magnitude_nearestRank_le nonnegative finite
  have binadePositive : (0 : Rat) < twoPow target.fractionBits :=
    Nat.cast_pos.mpr (twoPow_pos _)
  have isFine : (twoPow target.fractionBits : Rat) *
        target.spacing (target.nearestRank value) <
      2 * twoPow source.fractionBits * source.spacing rank := by
    rcases Nat.eq_zero_or_pos (target.doublings (target.nearestRank value)) with isFirst | doubled
    · have isLeast : (twoPow target.fractionBits : Rat) *
            target.spacing (target.nearestRank value) ≤
          twoPow source.fractionBits * source.spacing rank := by
        rw [spacing, isFirst, spacing, natCast_twoPow, natCast_twoPow, ← zpow_add₀ two_ne_zero,
          ← zpow_add₀ two_ne_zero]
        refine zpow_le_zpow_right₀ one_le_two ?_
        have fine := bisects.fine
        omega
      have positive : 0 < (twoPow source.fractionBits : Rat) * source.spacing rank :=
        mul_pos (Nat.cast_pos.mpr (twoPow_pos _)) (source.spacing_pos rank)
      linarith
    · refine lt_of_le_of_lt ?_ small
      rw [nearest, target.magnitude_eq (target.nearestRank value)]
      exact mul_le_mul_of_nonneg_right (Nat.cast_le.mpr (target.le_significand doubled))
        (target.spacing_pos _).le
  calc (twoPow target.fractionBits : Rat) * |value - target.nearest value|
      ≤ twoPow target.fractionBits * (target.spacing (target.nearestRank value) / 2) :=
        mul_le_mul_of_nonneg_left isClose binadePositive.le
    _ < twoPow source.fractionBits * source.spacing rank := by linarith

end Bisects
end FloatFormat
end RowBinding
