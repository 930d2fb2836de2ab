import Mathlib.Algebra.Order.AbsoluteValue.Basic
import Mathlib.Algebra.Order.Ring.Rat
import Mathlib.Data.Nat.GCD.Basic
import Mathlib.Tactic.Linarith
import Mathlib.Tactic.Ring

/-!
# Fractions near a number

Whole numbers whose quotient is near to a number are in proportion to every
fraction that is near to it, as long as none of the two is too large. So they
are multiples of the fraction in lowest terms, and the fraction tells how near
to the number such a quotient can be.

The convergents of the continued fraction of a number are near to it. What is
needed of a fraction is checked where it is used, and does not depend on how it
has been found.
-/

namespace RowBinding

/-- A numerator with its denominator. -/
structure Fraction where
  numerator : Nat
  denominator : Nat
  deriving DecidableEq

namespace Fraction

/--
The last convergent of a number within a limit for its denominator.

The number is the quotient of two numbers. The convergent before the first one has the
denominator zero.
-/
def convergent (limit : Nat) (steps : Nat) (upper lower : Nat) (last before : Fraction) :
    Fraction :=
  match steps, lower with
  | 0, _ => last
  | _, 0 => last
  | steps + 1, lower =>
      let quotient := upper / lower
      let next : Fraction :=
        ⟨quotient * last.numerator + before.numerator,
          quotient * last.denominator + before.denominator⟩
      if limit < next.denominator then last
      else convergent limit steps lower (upper % lower) next last

/-- The last convergent of a positive number within a limit for its denominator. -/
def approximating (limit : Nat) (number : Rat) : Fraction :=
  convergent limit 64 number.num.natAbs number.den ⟨1, 0⟩ ⟨0, 1⟩

/-- How far a fraction is from a number, in units of its denominator. -/
def error (fraction : Fraction) (number : Rat) : Rat :=
  |fraction.denominator * number - fraction.numerator|

/--
A fraction in lowest terms is so near to a number that every quotient out of proportion to it
misses the number by a gap.

The denominator of the quotient is limited, and the gap is one in units of it.
-/
def Dominates (fraction : Fraction) (number : Rat) (limit : Nat) (gap : Rat) : Prop :=
  fraction.numerator.Coprime fraction.denominator ∧ 0 < fraction.denominator ∧
    limit * fraction.error number + fraction.denominator * gap ≤ 1

instance (fraction : Fraction) (number : Rat) (limit : Nat) (gap : Rat) :
    Decidable (fraction.Dominates number limit gap) :=
  inferInstanceAs (Decidable (_ ∧ _ ∧ _))

variable
  {fraction : Fraction}
  {number gap : Rat}
  {limit count whole : Nat}

theorem Dominates.mul_eq_mul
    (dominates : fraction.Dominates number limit gap)
    (isLimited : count ≤ limit)
    (near : |count * number - whole| < gap) :
    count * fraction.numerator = whole * fraction.denominator := by
  obtain ⟨_, positive, isNear⟩ := dominates
  have isPositive : (0 : Rat) < fraction.denominator := Nat.cast_pos.mpr positive
  have isDifference : ((count * fraction.numerator - whole * fraction.denominator : Int) : Rat) =
      fraction.denominator * (count * number - whole) -
        count * (fraction.denominator * number - fraction.numerator) := by
    push_cast
    ring
  have isSmall :
      |((count * fraction.numerator - whole * fraction.denominator : Int) : Rat)| < 1 := by
    calc |((count * fraction.numerator - whole * fraction.denominator : Int) : Rat)|
        ≤ |(fraction.denominator : Rat) * (count * number - whole)| +
            |(count : Rat) * (fraction.denominator * number - fraction.numerator)| := by
          rw [isDifference]
          exact abs_sub _ _
      _ = fraction.denominator * |count * number - whole| + count * fraction.error number := by
          rw [abs_mul, abs_mul, Nat.abs_cast, Nat.abs_cast, error]
      _ < fraction.denominator * gap + limit * fraction.error number :=
          add_lt_add_of_lt_of_le (mul_lt_mul_of_pos_left near isPositive)
            (mul_le_mul_of_nonneg_right (Nat.cast_le.mpr isLimited) (abs_nonneg _))
      _ ≤ 1 := by linarith
  have isZero : (count * fraction.numerator - whole * fraction.denominator : Int) = 0 :=
    Int.abs_lt_one_iff.mp (by exact_mod_cast isSmall)
  exact_mod_cast sub_eq_zero.mp isZero

/-- A quotient near to a number is a multiple of a dominating fraction. -/
theorem Dominates.exists_eq_mul
    (dominates : fraction.Dominates number limit gap)
    (isLimited : count ≤ limit)
    (near : |count * number - whole| < gap) :
    ∃ times, count = times * fraction.denominator ∧ whole = times * fraction.numerator := by
  have same := dominates.mul_eq_mul isLimited near
  obtain ⟨coprime, positive, _⟩ := dominates
  have isDivisor : fraction.denominator ∣ count :=
    coprime.symm.dvd_of_dvd_mul_right (Dvd.intro_left whole same.symm)
  obtain ⟨times, rfl⟩ := isDivisor
  refine ⟨times, Nat.mul_comm _ _, Nat.eq_of_mul_eq_mul_right positive ?_⟩
  rw [← same]
  ring

/-- If a dominating fraction is the number, or not that near to it, or too large, then so is
every multiple of it, and no other quotient is near to the number. -/
theorem Dominates.mul_eq
    (dominates : fraction.Dominates number limit gap)
    {bound : Nat}
    (apart : fraction.error number = 0 ∨ gap ≤ fraction.error number ∨ bound ≤ fraction.numerator)
    (positive : 0 < count)
    (isLimited : count ≤ limit)
    (isBounded : whole < bound)
    (near : |count * number - whole| < gap) :
    count * number = whole := by
  obtain ⟨times, rfl, rfl⟩ := dominates.exists_eq_mul isLimited near
  have timesPositive : 1 ≤ times := Nat.pos_of_mul_pos_right positive
  have isError :
      ((times * fraction.denominator : Nat) : Rat) * number - (times * fraction.numerator : Nat) =
        times * (fraction.denominator * number - fraction.numerator) := by
    push_cast
    ring
  rcases apart with isNumber | isFar | isLarge
  · rw [← sub_eq_zero, isError, abs_eq_zero.mp isNumber, mul_zero]
  · rw [isError, abs_mul, Nat.abs_cast] at near
    have isLess : fraction.error number ≤ times * fraction.error number :=
      le_mul_of_one_le_left (abs_nonneg _) (Nat.one_le_cast.mpr timesPositive)
    exact absurd (near.trans_le' isLess) (not_lt.mpr isFar)
  · have isLess : fraction.numerator ≤ times * fraction.numerator :=
      Nat.le_mul_of_pos_left _ timesPositive
    omega

end Fraction
end RowBinding
