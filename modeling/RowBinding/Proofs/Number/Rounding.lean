import Mathlib.Data.Rat.Floor
import RowBinding.Number.Rounding

/-!
# Rounding to the even neighbour

A number between two integers in a row is rounded to one of the two, and to the
nearer one if it is not a half. Rounding keeps the order of numbers.

The integer that a number is rounded to is the only one that is nearest to it,
and even if another one is as near.
-/

namespace RowBinding
namespace Rounding

variable {value : Rat} {below : Int}

theorem floor_eq (isBelow : below ≤ value) (isAbove : value < below + 1) :
    value.floor = below :=
  Int.floor_eq_iff.mpr ⟨isBelow, isAbove⟩

theorem nearestEven_eq_or (isBelow : below ≤ value) (isAbove : value < below + 1) :
    nearestEven value = below ∨ nearestEven value = below + 1 := by
  unfold nearestEven
  rw [floor_eq isBelow isAbove]
  dsimp only
  split_ifs <;> simp

theorem nearestEven_of_lt_half (isBelow : below ≤ value) (nearer : value - below < 1 / 2) :
    nearestEven value = below := by
  unfold nearestEven
  rw [floor_eq isBelow (by linarith)]
  exact if_pos nearer

theorem nearestEven_of_half_lt
    (nearer : 1 / 2 < value - below)
    (isAbove : value < below + 1) :
    nearestEven value = below + 1 := by
  unfold nearestEven
  rw [floor_eq (by linarith) isAbove]
  exact (if_neg (not_lt.mpr nearer.le)).trans (if_pos nearer)

theorem nearestEven_intCast (number : Int) : nearestEven (number : Rat) = number :=
  nearestEven_of_lt_half le_rfl (by norm_num)

/-- A half above an integer is rounded to the even one of its neighbours. -/
theorem nearestEven_add_half (number : Int) :
    nearestEven (number + 1 / 2) = number + number % 2 := by
  have isFloor : ((number : Rat) + 1 / 2).floor = number := floor_eq (by linarith) (by linarith)
  unfold nearestEven
  rw [isFloor]
  dsimp only
  rw [add_sub_cancel_left, if_neg (lt_irrefl _), if_neg (lt_irrefl _)]
  split_ifs <;> omega

/-- A number is at most one away from the integer that it is rounded to. -/
theorem abs_sub_nearestEven_le (value : Rat) : |value - nearestEven value| ≤ 1 := by
  have isBelow := Int.floor_le value
  have isAbove := Int.lt_floor_add_one value
  rw [abs_le]
  rcases nearestEven_eq_or isBelow isAbove with rounded | rounded <;> rw [rounded] <;>
    push_cast <;> constructor <;> linarith

theorem nearestEven_mono {first second : Rat} (isLess : first ≤ second) :
    nearestEven first ≤ nearestEven second := by
  have isBelow := Int.floor_le first
  have isAbove := Int.lt_floor_add_one first
  have isBelowSecond := Int.floor_le second
  have isAboveSecond := Int.lt_floor_add_one second
  rcases (Int.floor_mono isLess).lt_or_eq with less | same
  · rcases nearestEven_eq_or isBelow isAbove with isFirst | isFirst <;>
      rcases nearestEven_eq_or isBelowSecond isAboveSecond with isSecond | isSecond <;>
      omega
  · -- Over one integer the order of the excesses decides.
    rw [same] at isBelow isAbove
    rcases lt_trichotomy (first - ⌊second⌋) (1 / 2) with nearer | isHalf | nearer
    · rw [nearestEven_of_lt_half isBelow nearer]
      rcases nearestEven_eq_or isBelowSecond isAboveSecond with isSecond | isSecond <;> omega
    · rcases isLess.lt_or_eq with less | rfl
      · rw [nearestEven_of_half_lt (by linarith) isAboveSecond]
        rcases nearestEven_eq_or isBelow isAbove with isFirst | isFirst <;> omega
      · exact le_rfl
    · rw [nearestEven_of_half_lt nearer isAbove,
        nearestEven_of_half_lt (by linarith) isAboveSecond]

/-! ## The nearest integer -/

/-- No integer is nearer to a number, and the integer is even if another one is as near. -/
structure IsNearestEven (value : Rat) (number : Int) : Prop where
  nearest : ∀ other : Int, |value - number| ≤ |value - other|
  even : ∀ other : Int, other ≠ number → |value - other| = |value - number| → 2 ∣ number

/-- A number is at most a half away from the integer that it is rounded to, and if it is a
half away then the integer is even. -/
theorem nearestEven_spec (value : Rat) :
    |value - nearestEven value| < 1 / 2 ∨
      |value - nearestEven value| = 1 / 2 ∧ 2 ∣ nearestEven value := by
  have isBelow := Int.floor_le value
  have isAbove := Int.lt_floor_add_one value
  rcases lt_trichotomy (value - ⌊value⌋) (1 / 2) with nearer | isHalf | nearer
  · rw [nearestEven_of_lt_half isBelow nearer, abs_of_nonneg (by linarith)]
    exact .inl nearer
  · refine .inr ?_
    unfold nearestEven
    rw [floor_eq isBelow isAbove]
    dsimp only
    rw [if_neg isHalf.not_lt, if_neg isHalf.not_gt]
    split_ifs with isEven
    · exact ⟨by rw [abs_of_nonneg (by linarith), isHalf], Int.dvd_of_emod_eq_zero isEven⟩
    · refine ⟨?_, by omega⟩
      rw [abs_of_nonpos] <;> push_cast <;> linarith
  · rw [nearestEven_of_half_lt nearer isAbove, abs_of_nonpos (by push_cast; linarith)]
    exact .inl (by push_cast; linarith)

theorem one_le_abs_sub {first second : Int} (different : first ≠ second) :
    (1 : Rat) ≤ |(first : Rat) - second| := by
  have isLess : 1 ≤ |first - second| := Int.one_le_abs (sub_ne_zero.mpr different)
  exact_mod_cast isLess

theorem isNearestEven_nearestEven (value : Rat) : IsNearestEven value (nearestEven value) := by
  have isClose := nearestEven_spec value
  -- Another integer is at least one away, so half of that is left to it.
  have isFar {other : Int} (different : other ≠ nearestEven value) :
      1 - |value - nearestEven value| ≤ |value - other| := by
    have apart := one_le_abs_sub different
    have isSum := abs_sub_le (other : Rat) value (nearestEven value)
    rw [abs_sub_comm (other : Rat) value] at isSum
    linarith
  constructor
  · intro other
    by_cases same : other = nearestEven value
    · rw [same]
    · have := isFar same
      rcases isClose with isClose | ⟨isClose, _⟩ <;> linarith
  · intro other different asNear
    have := isFar different
    rcases isClose with isClose | ⟨_, isEven⟩
    · linarith
    · exact isEven

/-- Only the integer that a number is rounded to is nearest to it in this way. -/
theorem isNearestEven_iff {value : Rat} {number : Int} :
    IsNearestEven value number ↔ number = nearestEven value := by
  refine ⟨fun isNearest => ?_, fun same => same ▸ isNearestEven_nearestEven value⟩
  by_contra different
  have rounded := isNearestEven_nearestEven value
  have asNear : |value - number| = |value - nearestEven value| :=
    le_antisymm (isNearest.nearest _) (rounded.nearest _)
  have isEven := isNearest.even _ (Ne.symm different) asNear.symm
  have isRoundedEven := rounded.even _ different asNear
  have isSum := abs_sub_le (number : Rat) value (nearestEven value)
  rw [abs_sub_comm (number : Rat) value, asNear] at isSum
  have isClose : |(number : Rat) - nearestEven value| ≤ 1 := by
    rcases nearestEven_spec value with less | ⟨same, _⟩ <;> linarith
  have isWithinOne : |number - nearestEven value| ≤ 1 := by exact_mod_cast isClose
  rw [abs_le] at isWithinOne
  omega

end Rounding
end RowBinding
