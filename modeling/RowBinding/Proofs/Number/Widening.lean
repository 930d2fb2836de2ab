import RowBinding.Proofs.Number.Ranks

/-!
# Widening of floats

A format with finer and larger floats has all floats of another one. So a float
keeps its value in such a format, and a single float keeps it as a double.
-/

namespace RowBinding
namespace FloatFormat

variable {source target : FloatFormat}

/-- Every float of one format is a float of another one. -/
structure Widens (source target : FloatFormat) : Prop where
  precise : twoPow source.fractionBits ≤ twoPow target.fractionBits
  fine : target.leastExponent ≤ source.leastExponent
  large : source.magnitude source.infinityRank ≤ target.magnitude target.infinityRank

theorem widens_binary32_binary64 : binary32.Widens binary64 where
  precise := by decide
  fine := by decide
  large := by decide +kernel

/-- A finite float of a format has a rank in a wider one. -/
theorem Widens.exists_magnitude_eq
    (widens : source.Widens target)
    {rank : Nat}
    (finite : rank < source.infinityRank) :
    ∃ wider, wider < target.infinityRank ∧ target.magnitude wider = source.magnitude rank := by
  have small : source.significand rank ≤ 2 * twoPow target.fractionBits :=
    (source.significand_lt rank).le.trans (Nat.mul_le_mul_left 2 widens.precise)
  have fine : target.leastExponent ≤ source.leastExponent + source.doublings rank :=
    widens.fine.trans (Int.le_add_of_nonneg_right (Int.natCast_nonneg _))
  obtain ⟨wider, isWider⟩ := target.exists_magnitude_eq fine small
  have same : target.magnitude wider = source.magnitude rank := by
    rw [isWider, magnitude_eq, spacing]
  refine ⟨wider, target.magnitude_strictMono.lt_iff_lt.mp ?_, same⟩
  rw [same]
  exact (source.magnitude_strictMono finite).trans_le widens.large

end FloatFormat

/-- A float keeps its value in a wider format. -/
theorem Floating.toRat?_toFormat
    {source target : FloatFormat}
    (widens : source.Widens target)
    (float : Floating source) :
    (float.toFormat target).toRat? = float.toRat? := by
  cases float with
  | nan => rfl
  | signed negative rank bounded =>
      rcases bounded.eq_or_lt with rfl | finite
      · rw [toFormat, if_pos rfl, infinity, toRat?, if_pos rfl, toRat?, if_pos rfl]
      · obtain ⟨wider, isFinite, same⟩ := widens.exists_magnitude_eq finite
        have isNearest : target.nearestRank (source.magnitude rank) = wider := by
          rw [← same, target.nearestRank_magnitude isFinite.le]
        rw [toFormat, if_neg finite.ne, round, toRat?, toRat?, if_neg finite.ne, isNearest,
          if_neg isFinite.ne, same]

end RowBinding
