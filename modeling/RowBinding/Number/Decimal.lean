import RowBinding.Number.FloatingText
import RowBinding.Number.LongDivision

/-!
# Decimal numbers

A decimal is a sign, a mantissa of at most 96 bits and a scale of at most 28
places. The scale is kept, so one number has several forms, and equality of
decimals is equality of the numbers.

Sum, difference, product and quotient are computed exactly and rounded once, to
the largest scale at which the mantissa fits, with a half going to the even
neighbour. A result that fits at no scale is refused. The remainder is that of
a long division by words.
-/

namespace RowBinding

/-- Mantissas of decimals stay below this bound. -/
def mantissaBound : Nat :=
  79228162514264337593543950336

/-- The greatest number of places behind the point of a decimal. -/
def greatestScale : Nat :=
  28

/-- A decimal number with its sign, its mantissa and its scale. -/
structure Decimal where
  negative : Bool
  mantissa : Nat
  scale : Nat
  mantissa_lt : mantissa < mantissaBound
  scale_le : scale ≤ greatestScale
  deriving DecidableEq

namespace Decimal

/-- The whole number zero. -/
def zero : Decimal :=
  ⟨false, 0, 0, by decide, by decide⟩

/-- The whole number one. -/
def one : Decimal :=
  ⟨false, 1, 0, by decide, by decide⟩

/-- The decimal of given parts, if they fit; zero is positive. -/
def ofParts? (negative : Bool) (mantissa scale : Nat) : Option Decimal :=
  if fits : mantissa < mantissaBound ∧ scale ≤ greatestScale then
    some ⟨negative && mantissa != 0, mantissa, scale, fits.1, fits.2⟩
  else
    none

/-- The magnitude of a decimal. -/
def magnitude (decimal : Decimal) : Rat :=
  (decimal.mantissa : Rat) / (tenPow decimal.scale : Rat)

/-- The exact value of a decimal. -/
def toRat (decimal : Decimal) : Rat :=
  if decimal.negative then -decimal.magnitude else decimal.magnitude

/-- Whether a decimal is zero of any form. -/
def isZero (decimal : Decimal) : Bool :=
  decimal.mantissa == 0

/-- Equality of decimals as numbers. -/
def equal (first second : Decimal) : Bool :=
  first.toRat == second.toRat

/-- The decimal with its sign turned round, zero included. -/
def neg (decimal : Decimal) : Decimal :=
  { decimal with negative := !decimal.negative }

/-- The decimal of an integer, if it fits. -/
def ofInt? (value : Int) : Option Decimal :=
  ofParts? (value < 0) value.natAbs 0

/-- Move zeros at the end of a mantissa out of it, down to a least scale. -/
def dropZeros (least : Nat) (mantissa : Nat) : Nat → Nat × Nat
  | 0 => (mantissa, 0)
  | scale + 1 =>
      if least ≤ scale && mantissa % 10 == 0 then
        dropZeros least (mantissa / 10) scale
      else
        (mantissa, scale + 1)

theorem dropZeros_fst_le (least mantissa scale : Nat) :
    (dropZeros least mantissa scale).1 ≤ mantissa := by
  induction scale generalizing mantissa with
  | zero => exact Nat.le_refl _
  | succ scale inductionHypothesis =>
      unfold dropZeros
      split
      · exact Nat.le_trans (inductionHypothesis _) (Nat.div_le_self _ _)
      · exact Nat.le_refl _

theorem dropZeros_snd_le (least mantissa scale : Nat) :
    (dropZeros least mantissa scale).2 ≤ scale := by
  induction scale generalizing mantissa with
  | zero => exact Nat.le_refl _
  | succ scale inductionHypothesis =>
      unfold dropZeros
      split
      · exact Nat.le_succ_of_le (inductionHypothesis _)
      · exact Nat.le_refl _

/-- Zeros at the end dropped down to a least scale; zero becomes positive. -/
def reduce (least : Nat) (decimal : Decimal) : Decimal where
  negative := decimal.negative && decimal.mantissa != 0
  mantissa := (dropZeros least decimal.mantissa decimal.scale).1
  scale := (dropZeros least decimal.mantissa decimal.scale).2
  mantissa_lt := Nat.lt_of_le_of_lt (dropZeros_fst_le _ _ _) decimal.mantissa_lt
  scale_le := Nat.le_trans (dropZeros_snd_le _ _ _) decimal.scale_le

/-- The form without zeros at the end behind the point. -/
def normalize (decimal : Decimal) : Decimal :=
  decimal.reduce 0

/-- Round a number to the largest scale up to a limit at which it fits. -/
def fit? (value : Rat) : Nat → Option Decimal
  | 0 =>
      let rounded := Rounding.nearestEven value
      ofParts? (rounded < 0) rounded.natAbs 0
  | limit + 1 =>
      let rounded := Rounding.nearestEven (value * (tenPow (limit + 1) : Rat))
      match ofParts? (rounded < 0) rounded.natAbs (limit + 1) with
      | some decimal => some decimal
      | none => fit? value limit

/-- The sum, if it fits; zero leaves the other summand as it stands. -/
def add? (first second : Decimal) : Option Decimal :=
  if first.isZero then some second
  else if second.isZero then some first
  else fit? (first.toRat + second.toRat) (max first.scale second.scale)

/-- The difference, if it fits. -/
def sub? (first second : Decimal) : Option Decimal :=
  add? first (if second.isZero then second else second.neg)

/-- Whether a mantissa takes at most one word of 32 bits. -/
def isShort (decimal : Decimal) : Bool :=
  decide (decimal.mantissa < 4294967296)

/-- More places than this leave nothing of a product of short mantissas. -/
def greatestShortProductScale : Nat :=
  47

/--
The product, if it fits.

A product that is rounded off to zero keeps its sign, except that a product of
short mantissas is then a positive zero, without places if it had too many.
-/
def mul? (first second : Decimal) : Option Decimal :=
  let scale := first.scale + second.scale
  let isShort := first.isShort && second.isShort
  if first.isZero || second.isZero then some zero
  else if isShort && decide (greatestShortProductScale < scale) then some zero
  else
    (fit? (first.toRat * second.toRat) (min greatestScale scale)).map fun product =>
      if isShort then product
      else { product with negative := first.negative != second.negative }

/--
The quotient by a decimal other than zero, if it fits.

An exact quotient keeps the difference of the scales; any other one has no
zeros at the end.
-/
def div? (first second : Decimal) : Option Decimal :=
  if first.isZero then some zero
  else
    let quotient := first.toRat / second.toRat
    (fit? quotient greatestScale).map fun decimal =>
      if decimal.toRat == quotient then decimal.reduce (first.scale - second.scale)
      else decimal.normalize

/--
The remainder of division by a decimal other than zero, with the sign of the
dividend.

Nothing remains, not even places, of zero and of two equal magnitudes, and a
dividend of smaller magnitude remains as it stands. All others are brought to
one scale, and the mantissas divided word by word.
-/
def rem? (first second : Decimal) : Option Decimal :=
  if first.isZero || first.magnitude == second.magnitude then some zero
  else if first.magnitude < second.magnitude then some first
  else
    let scale := max first.scale second.scale
    ofParts? first.negative
      (LongDivision.remainder
        (first.mantissa * tenPow (scale - first.scale))
        (second.mantissa * tenPow (scale - second.scale)))
      scale

/-- The nearest integer; a half goes to the even neighbour. -/
def toNearestInt (decimal : Decimal) : Int :=
  Rounding.nearestEven decimal.toRat

/-- Text with as many places behind the point as the scale says. -/
def toText (decimal : Decimal) : String :=
  let digits := Text.padZeros (decimal.scale + 1) (Text.decimalDigits decimal.mantissa)
  let whole := digits.take (digits.length - decimal.scale)
  let fraction := digits.drop (digits.length - decimal.scale)
  let magnitude := if fraction.isEmpty then whole else whole ++ '.' :: fraction
  String.ofList (if decimal.negative then '-' :: magnitude else magnitude)

@[simp] theorem neg_neg (decimal : Decimal) : decimal.neg.neg = decimal := by
  cases decimal
  simp [neg]

@[simp] theorem equal_self (decimal : Decimal) : decimal.equal decimal = true := by
  simp [equal]

theorem equal_iff (first second : Decimal) :
    first.equal second = true ↔ first.toRat = second.toRat := by
  simp [equal]

end Decimal
end RowBinding
