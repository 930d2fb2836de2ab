import RowBinding.Number.Power
import RowBinding.Number.Rounding

/-!
# Binary floating-point numbers

A float is either not a number or a sign with a rank. The ranks count the
non-negative floats of a format upward from zero, and the greatest rank is
infinity, so neighbouring floats have neighbouring ranks and the order of the
ranks is the order of the magnitudes.

Arithmetic is exact on rational numbers and rounds once, to the nearest float
with a half going to the even rank. A result too large for the format therefore
reaches the rank of infinity by itself.
-/

namespace RowBinding

/-- Layout of a binary float: how many bits its fraction and its exponent have. -/
structure FloatFormat where
  fractionBits : Nat
  exponentBits : Nat
  deriving DecidableEq

/-- The single format. -/
def binary32 : FloatFormat := ⟨23, 8⟩

/-- The double format. -/
def binary64 : FloatFormat := ⟨52, 11⟩

namespace FloatFormat

/-- Exponent of the spacing of the smallest floats. -/
def leastExponent (format : FloatFormat) : Int :=
  2 - (twoPow (format.exponentBits - 1) : Int) - format.fractionBits

/-- The rank of infinity. -/
def infinityRank (format : FloatFormat) : Nat :=
  (twoPow format.exponentBits - 1) * twoPow format.fractionBits

/-- Exact magnitude of the float of a rank. -/
def magnitude (format : FloatFormat) (rank : Nat) : Rat :=
  let binade := rank / twoPow format.fractionBits
  if binade = 0 then
    rank * (2 : Rat) ^ format.leastExponent
  else
    ((twoPow format.fractionBits + rank % twoPow format.fractionBits : Nat) : Rat) *
      (2 : Rat) ^ (format.leastExponent + binade - 1)

/--
The rank of the float nearest to a non-negative number.

The spacing of the floats around the number decides the unit it is rounded in.
A carry into the next binade lands on the right rank without further ado.
-/
def nearestRank (format : FloatFormat) (value : Rat) : Nat :=
  if value ≤ 0 then 0
  else
    let exponent := max format.leastExponent (binaryExponent value - format.fractionBits)
    let significand := (Rounding.nearestEven (value / (2 : Rat) ^ exponent)).toNat
    let binade := (exponent - format.leastExponent).toNat
    min (binade * twoPow format.fractionBits + significand) format.infinityRank

theorem nearestRank_le (format : FloatFormat) (value : Rat) :
    format.nearestRank value ≤ format.infinityRank := by
  unfold nearestRank
  split
  · exact Nat.zero_le _
  · exact Nat.min_le_right _ _

/-- How many significant decimal digits always suffice to tell floats apart. -/
def roundTripDigits (format : FloatFormat) : Nat :=
  (format.fractionBits + 1) * 30103 / 100000 + 2

end FloatFormat

/-- A float of a format: not a number, or a sign and a rank up to infinity. -/
inductive Floating (format : FloatFormat)
  | nan
  | signed
      (negative : Bool)
      (rank : Nat)
      (bounded : rank ≤ format.infinityRank)
  deriving DecidableEq

namespace Floating

variable {format : FloatFormat}

/-- Zero with a sign. -/
def zero (negative : Bool) : Floating format :=
  .signed negative 0 (Nat.zero_le _)

/-- Infinity with a sign. -/
def infinity (negative : Bool) : Floating format :=
  .signed negative format.infinityRank (Nat.le_refl _)

/-- The float nearest to a magnitude, with a sign. -/
def round (negative : Bool) (magnitude : Rat) : Floating format :=
  .signed negative (format.nearestRank magnitude) (format.nearestRank_le magnitude)

/-- The float nearest to a rational number; zero is positive. -/
def ofRat (value : Rat) : Floating format :=
  if value < 0 then round true (-value) else round false value

/-- The float nearest to an integer. -/
def ofInt (value : Int) : Floating format :=
  ofRat value

/-- The exact value of a finite float. -/
def toRat? : Floating format → Option Rat
  | .nan => none
  | .signed negative rank _ =>
      if rank = format.infinityRank then none
      else if negative then some (-format.magnitude rank)
      else some (format.magnitude rank)

/-- Whether a float is a number other than the infinities. -/
def isFinite (float : Floating format) : Bool :=
  float.toRat?.isSome

/-- Whether a float is zero of either sign. -/
def isZero : Floating format → Bool
  | .nan => false
  | .signed _ rank _ => rank == 0

/-- Whether a float is infinite. -/
def isInfinite : Floating format → Bool
  | .nan => false
  | .signed _ rank _ => rank == format.infinityRank

/-- Whether a float carries a minus sign. -/
def isNegative : Floating format → Bool
  | .nan => false
  | .signed negative _ _ => negative

/-- The float with its sign turned round. -/
def neg : Floating format → Floating format
  | .nan => .nan
  | .signed negative rank bounded => .signed (!negative) rank bounded

/--
Equality of floats as numbers.

Both zeros are equal, and what is not a number differs from everything.
-/
def equal : Floating format → Floating format → Bool
  | .signed firstNegative firstRank _, .signed secondNegative secondRank _ =>
      firstRank == secondRank && (firstNegative == secondNegative || firstRank == 0)
  | _, _ => false

/-- The nearest float of another format. -/
def toFormat (target : FloatFormat) : Floating format → Floating target
  | .nan => .nan
  | .signed negative rank _ =>
      if rank = format.infinityRank then infinity negative
      else round negative (format.magnitude rank)

/-- Product rounded to the nearest float. -/
def mul : Floating format → Floating format → Floating format
  | .signed firstNegative firstRank _, .signed secondNegative secondRank _ =>
      let negative := firstNegative != secondNegative
      if firstRank = format.infinityRank || secondRank = format.infinityRank then
        if firstRank = 0 || secondRank = 0 then .nan else infinity negative
      else
        round negative (format.magnitude firstRank * format.magnitude secondRank)
  | _, _ => .nan

/-- Quotient rounded to the nearest float. -/
def div : Floating format → Floating format → Floating format
  | .signed firstNegative firstRank _, .signed secondNegative secondRank _ =>
      let negative := firstNegative != secondNegative
      if firstRank = format.infinityRank then
        if secondRank = format.infinityRank then .nan else infinity negative
      else if secondRank = format.infinityRank then
        zero negative
      else if secondRank = 0 then
        if firstRank = 0 then .nan else infinity negative
      else
        round negative (format.magnitude firstRank / format.magnitude secondRank)
  | _, _ => .nan

@[simp] theorem neg_neg (float : Floating format) : float.neg.neg = float := by
  cases float <;> simp [neg]

@[simp] theorem equal_nan_left (float : Floating format) :
    equal .nan float = false := rfl

@[simp] theorem equal_nan_right (float : Floating format) :
    equal float .nan = false := by
  cases float <;> rfl

end Floating

/-- A float of the single format. -/
abbrev Float32Value := Floating binary32

/-- A float of the double format. -/
abbrev Float64Value := Floating binary64

end RowBinding
