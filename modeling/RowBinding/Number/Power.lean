/-!
# Powers of two and of ten

The two scales that numbers are measured on here: powers of two for binary
floats and powers of ten for decimal text, with the number of digits that a
number needs on each.
-/

namespace RowBinding

/-- Two to the power of an exponent. -/
def twoPow (exponent : Nat) : Nat :=
  Nat.pow 2 exponent

/-- Ten to the power of an exponent. -/
def tenPow (exponent : Nat) : Nat :=
  Nat.pow 10 exponent

@[simp] theorem twoPow_zero : twoPow 0 = 1 := rfl

@[simp] theorem tenPow_zero : tenPow 0 = 1 := rfl

theorem twoPow_succ (exponent : Nat) :
    twoPow (exponent + 1) = twoPow exponent * 2 := rfl

theorem tenPow_succ (exponent : Nat) :
    tenPow (exponent + 1) = tenPow exponent * 10 := rfl

theorem twoPow_pos (exponent : Nat) : 0 < twoPow exponent := by
  induction exponent with
  | zero => decide
  | succ exponent inductionHypothesis => rw [twoPow_succ]; omega

theorem tenPow_pos (exponent : Nat) : 0 < tenPow exponent := by
  induction exponent with
  | zero => decide
  | succ exponent inductionHypothesis => rw [tenPow_succ]; omega

/--
The exponent of the leading binary digit of a positive rational number.

It is the greatest exponent whose power of two is at most the number.
-/
def binaryExponent (value : Rat) : Int :=
  let guess : Int := value.num.natAbs.log2 - value.den.log2
  if (2 : Rat) ^ guess ≤ value then guess else guess - 1

/-- Number of decimal digits of a natural number. -/
def decimalLength (number : Nat) : Nat :=
  (Nat.toDigits 10 number).length

/--
The exponent of the leading decimal digit of a positive rational number.

It is the greatest exponent whose power of ten is at most the number.
-/
def decimalExponent (value : Rat) : Int :=
  let guess : Int := decimalLength value.num.natAbs - decimalLength value.den
  if (10 : Rat) ^ guess ≤ value then guess else guess - 1

end RowBinding
