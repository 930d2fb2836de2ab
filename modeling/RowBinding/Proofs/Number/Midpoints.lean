import RowBinding.Proofs.Number.Ranks

/-!
# Midpoints between floats

The numbers that read back as a float reach from the midpoint between it and
the float below to the midpoint between it and the float above. A midpoint
itself is rounded to the even one of the two ranks. So a number is at most half
of a spacing away from the float nearest to it.
-/

namespace RowBinding
namespace FloatFormat

variable {format : FloatFormat} {rank : Nat} {value : Rat}

/-- The number half-way between the float of a rank and the next one. -/
def midpoint (format : FloatFormat) (rank : Nat) : Rat :=
  format.magnitude rank + format.spacing rank / 2

theorem midpoint_eq_sub (format : FloatFormat) (rank : Nat) :
    format.midpoint rank = format.magnitude (rank + 1) - format.spacing rank / 2 := by
  rw [magnitude_succ, midpoint]
  ring

theorem magnitude_lt_midpoint (format : FloatFormat) (rank : Nat) :
    format.magnitude rank < format.midpoint rank :=
  lt_add_of_pos_right _ (half_pos (format.spacing_pos rank))

theorem midpoint_lt_magnitude (format : FloatFormat) (rank : Nat) :
    format.midpoint rank < format.magnitude (rank + 1) := by
  rw [midpoint_eq_sub]
  exact sub_lt_self _ (half_pos (format.spacing_pos rank))

theorem midpoint_pos (format : FloatFormat) (rank : Nat) : 0 < format.midpoint rank :=
  (format.magnitude_nonneg rank).trans_lt (format.magnitude_lt_midpoint rank)

/-- A midpoint is an odd number of halves of the spacing. -/
theorem midpoint_eq_mul (format : FloatFormat) (rank : Nat) :
    format.midpoint rank = (2 * format.significand rank + 1 : Nat) * (format.spacing rank / 2) := by
  rw [midpoint, magnitude_eq]
  push_cast
  ring

/-! ## Where a number is rounded to -/

theorem nearestRank_le_of_lt_midpoint (below : value < format.midpoint rank) :
    format.nearestRank value ≤ rank := by
  rcases lt_or_ge value (format.magnitude rank) with isLess | isMore
  · refine (format.nearestRank_mono isLess.le).trans ?_
    rw [nearestRank_magnitude_eq_min]
    exact min_le_left _ _
  · rcases le_or_gt value 0 with nonpositive | positive
    · rw [format.nearestRank_of_nonpos nonpositive]
      exact Nat.zero_le rank
    · have between : format.Between rank value :=
        ⟨isMore, below.trans (format.midpoint_lt_magnitude rank)⟩
      rw [between.nearestRank_of_lower positive (sub_lt_iff_lt_add'.mpr below)]
      exact min_le_left _ _

theorem lt_nearestRank_of_midpoint_lt
    (finite : rank < format.infinityRank)
    (above : format.midpoint rank < value) :
    rank < format.nearestRank value := by
  have isNext : min (rank + 1) format.infinityRank = rank + 1 := min_eq_left finite
  rcases lt_or_ge value (format.magnitude (rank + 1)) with isLess | isMore
  · have between : format.Between rank value :=
      ⟨((format.magnitude_lt_midpoint rank).trans above).le, isLess⟩
    rw [midpoint_eq_sub] at above
    rw [between.nearestRank_of_upper ((format.midpoint_pos rank).trans
      (by rwa [midpoint_eq_sub])) (by linarith), isNext]
    exact Nat.lt_succ_self rank
  · have isLeast := format.nearestRank_mono isMore
    rw [nearestRank_magnitude_eq_min, isNext] at isLeast
    exact isLeast

/-- Numbers that read back as a float are not below the midpoint below it. -/
theorem midpoint_le_of_nearestRank_eq (readsBack : format.nearestRank value = rank + 1) :
    format.midpoint rank ≤ value := by
  by_contra below
  have isLess := nearestRank_le_of_lt_midpoint (not_le.mp below)
  omega

/-- Numbers that read back as a float are not above the midpoint above it. -/
theorem le_midpoint_of_nearestRank_eq
    (finite : rank < format.infinityRank)
    (readsBack : format.nearestRank value = rank) :
    value ≤ format.midpoint rank := by
  by_contra above
  have isMore := lt_nearestRank_of_midpoint_lt finite (not_le.mp above)
  omega

/-- All numbers between the midpoints around a float read back as it. -/
theorem nearestRank_eq_of_lt_of_lt
    (finite : rank < format.infinityRank)
    (above : format.midpoint rank < value)
    (below : value < format.midpoint (rank + 1)) :
    format.nearestRank value = rank + 1 :=
  le_antisymm (nearestRank_le_of_lt_midpoint below) (lt_nearestRank_of_midpoint_lt finite above)

theorem significand_mod_two (fractional : 0 < format.fractionBits) (rank : Nat) :
    format.significand rank % 2 = rank % 2 := by
  obtain ⟨bits, isBits⟩ := Nat.exists_eq_succ_of_ne_zero fractional.ne'
  have isSum := format.significand_add rank
  rw [isBits, twoPow_succ, ← Nat.mul_assoc] at isSum
  omega

/-- A midpoint is rounded to the even one of its ranks. -/
theorem nearestRank_midpoint (fractional : 0 < format.fractionBits) (rank : Nat) :
    format.nearestRank (format.midpoint rank) = min (rank + rank % 2) format.infinityRank := by
  have between : format.Between rank (format.midpoint rank) :=
    ⟨(format.magnitude_lt_midpoint rank).le, format.midpoint_lt_magnitude rank⟩
  have isHalf : format.midpoint rank / format.spacing rank =
      ((format.significand rank : Int) : Rat) + 1 / 2 := by
    rw [midpoint_eq_mul, Int.cast_natCast, div_eq_iff (format.spacing_pos rank).ne']
    push_cast
    ring
  have isSum := format.significand_add rank
  have isParity := significand_mod_two fractional rank
  rw [between.nearestRank_eq (format.midpoint_pos rank), isHalf, Rounding.nearestEven_add_half]
  congr 1
  omega

/-! ## How far a number is from its float -/

/-- A number is at most half of a spacing away from the float nearest to it. -/
theorem abs_sub_magnitude_nearestRank_le
    (nonnegative : 0 ≤ value)
    (finite : format.nearestRank value < format.infinityRank) :
    |value - format.magnitude (format.nearestRank value)| ≤
      format.spacing (format.nearestRank value) / 2 := by
  have isBelow := le_midpoint_of_nearestRank_eq finite rfl
  rw [midpoint] at isBelow
  cases isRank : format.nearestRank value with
  | zero =>
      rw [isRank, magnitude_zero, zero_add] at isBelow
      rwa [magnitude_zero, sub_zero, abs_of_nonneg nonnegative]
  | succ rank =>
      have isAbove := midpoint_le_of_nearestRank_eq isRank
      have isLess := format.spacing_mono (Nat.le_add_right rank 1)
      rw [midpoint_eq_sub] at isAbove
      rw [isRank] at isBelow
      rw [abs_le]
      constructor <;> linarith

end FloatFormat
end RowBinding
