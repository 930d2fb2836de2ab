import RowBinding.Number.Floating
import RowBinding.Text.Digits

/-!
# Shortest decimal digits of a float

The digits of a float are the fewest that read back as the same float. The
search goes through the decimal grids from the coarsest one that separates the
number from zero to finer ones and stops at the first that has a point which
reads back. Only the two neighbours of the number on a grid need to be tried.

When both neighbours read back the nearer one wins. Of two equally near ones a
tie rule picks either the greater or the one with an even last digit.
-/

namespace RowBinding

/-- Decimal digits without zeros at either end, and the exponent of the first. -/
structure Scientific where
  digits : List Char
  exponent : Int
  deriving DecidableEq

namespace Scientific

/-- The digits of a coefficient whose last digit stands at a given place. -/
def ofCoefficient (coefficient : Nat) (place : Int) : Scientific :=
  let digits := Text.decimalDigits coefficient
  { digits := (digits.reverse.dropWhile (· == '0')).reverse
    exponent := place + digits.length - 1 }

/-- The digits before and behind the point when no exponent is written. -/
def positional (scientific : Scientific) : List Char × List Char :=
  if scientific.exponent < 0 then
    (['0'],
      List.replicate (-scientific.exponent - 1).toNat '0' ++ scientific.digits)
  else
    let width := scientific.exponent.toNat + 1
    (scientific.digits.take width ++
        List.replicate (width - scientific.digits.length) '0',
      scientific.digits.drop width)

end Scientific

/-- Which of two equally near points of a grid is taken. -/
inductive TieRule
  | greater
  | even
  deriving DecidableEq

/-- Whether a tie between a point of a grid and the next one goes to the next. -/
def TieRule.goesUp (tie : TieRule) (below : Nat) : Bool :=
  match tie with
  | .greater => true
  | .even => below % 2 == 1

namespace FloatFormat

/-- Whether a number is nearest to the float of a rank. -/
def readsBack (format : FloatFormat) (rank : Nat) (candidate : Rat) : Bool :=
  format.nearestRank candidate == rank

/-- Search the decimal grids from a place downward for a point that reads back. -/
def searchGrids
    (format : FloatFormat)
    (tie : TieRule)
    (rank : Nat)
    (value : Rat) : Nat → Int → Scientific
  | 0, place =>
      .ofCoefficient (value / (10 : Rat) ^ place).floor.toNat place
  | grids + 1, place =>
      let unit := (10 : Rat) ^ place
      let below := (value / unit).floor.toNat
      let lower := (below : Rat) * unit
      let upper := lower + unit
      let upperHits := format.readsBack rank upper
      if format.readsBack rank lower then
        if upperHits &&
            (upper - value < value - lower ||
              (upper - value = value - lower && tie.goesUp below)) then
          .ofCoefficient (below + 1) place
        else
          .ofCoefficient below place
      else if upperHits then
        .ofCoefficient (below + 1) place
      else
        format.searchGrids tie rank value grids (place - 1)

/-- The shortest digits of the float of a positive finite rank. -/
def shortest (format : FloatFormat) (tie : TieRule) (rank : Nat) : Scientific :=
  let value := format.magnitude rank
  format.searchGrids tie rank value format.roundTripDigits (decimalExponent value)

end FloatFormat
end RowBinding
