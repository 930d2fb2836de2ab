import RowBinding.Number.Decimal

/-!
# Reading decimals

A decimal is written as an optional sign and digits with at most one point,
with underscores allowed between the digits, or as such a text with an
exponent.

Digits are taken while they fit. The first digit behind the point that does
not fit decides alone whether the digits taken are rounded up, and what
follows it only has to be well formed.

An exponent moves the point. Places that it moves beyond the greatest scale are
rounded off, with a half going away from zero.
-/

namespace RowBinding
namespace Decimal

/-- Whether only digits and underscores remain. -/
def tailAllowed (rest : List Char) : Bool :=
  rest.all fun char => char.isDigit || char == '_'

/--
Finish a decimal whose mantissa takes no further digit.

The deciding digit rounds up from five on. When that fills the mantissa, the
last place is given up.
-/
def roundOff?
    (negative : Bool)
    (mantissa scale deciding : Nat)
    (rest : List Char) : Option Decimal :=
  if !tailAllowed rest then none
  else if deciding < 5 then ofParts? negative mantissa scale
  else if mantissa + 1 < mantissaBound then ofParts? negative (mantissa + 1) scale
  else if scale = 0 then none
  else ofParts? negative ((mantissa + 5) / 10) (scale - 1)

/-- Mantissas from here on are extended in more than a machine word. -/
def longMantissa : Nat :=
  1844674407370954906

/--
Whether an underscore behind the last place is passed over.

It is if that place was appended to a long mantissa. Behind a shorter one it
stands for the deciding digit, as a zero.
-/
def passesUnderscore (mantissa : Nat) : Bool :=
  decide (longMantissa ≤ mantissa / 10)

/--
Take the digits of an unsigned decimal.

The flags say whether the point and whether a digit have been passed.
-/
def takeDigits?
    (negative : Bool)
    (mantissa scale : Nat)
    (pointPassed digitPassed : Bool) : List Char → Option Decimal
  | [] => if digitPassed then ofParts? negative mantissa scale else none
  | char :: rest =>
      if char.isDigit then
        let extended := 10 * mantissa + Text.digitValue char
        let full := pointPassed && scale == greatestScale
        if full || !(decide (extended < mantissaBound)) then
          if pointPassed then
            roundOff? negative mantissa scale (Text.digitValue char) rest
          else
            none
        else
          takeDigits? negative extended (if pointPassed then scale + 1 else scale)
            pointPassed true rest
      else if char == '.' && !pointPassed then
        takeDigits? negative mantissa scale true digitPassed rest
      else if char == '_' && digitPassed then
        if pointPassed && scale == greatestScale && !passesUnderscore mantissa then
          roundOff? negative mantissa scale 0 rest
        else
          takeDigits? negative mantissa scale pointPassed true rest
      else
        none

/-- Read a decimal without an exponent. -/
def readPlain? (chars : List Char) : Option Decimal :=
  let (negative, body) := Text.splitSign chars
  takeDigits? negative 0 0 false false body

/-- Read a number of at most 32 bits, with an optional plus sign. -/
def readExponentMagnitude? (chars : List Char) : Option Nat :=
  let digits :=
    match chars with
    | '+' :: rest => rest
    | _ => chars
  if Text.isDigits digits then
    let value := Text.digitsValue digits
    if value < 4294967296 then some value else none
  else
    none

/-- Multiply by a power of ten by taking places away and then adding zeros. -/
def shiftUp? (decimal : Decimal) (exponent : Nat) : Option Decimal :=
  if exponent ≤ decimal.scale then
    ofParts? decimal.negative decimal.mantissa (decimal.scale - exponent)
  else if greatestScale < exponent then
    none
  else
    (ofParts? decimal.negative
      (decimal.mantissa * tenPow (exponent - decimal.scale)) 0).map normalize

/--
Divide by a power of ten, to at most the greatest scale.

A number that is rounded off to zero keeps its sign.
-/
def shiftDown? (decimal : Decimal) (exponent : Nat) : Option Decimal :=
  if greatestScale < exponent then
    none
  else if decimal.scale + exponent ≤ greatestScale then
    ofParts? decimal.negative decimal.mantissa (decimal.scale + exponent)
  else
    let dropped := decimal.scale + exponent - greatestScale
    let mantissa :=
      (decimal.mantissa + 5 * tenPow (dropped - 1)) / tenPow dropped
    if fits : mantissa < mantissaBound then
      some ⟨decimal.negative, mantissa, greatestScale, fits, Nat.le_refl _⟩
    else
      none

/-- Read a decimal with an exponent. -/
def readScientific? (chars : List Char) : Option Decimal :=
  let isMark := fun char => char == 'e' || char == 'E'
  let base := chars.takeWhile fun char => !isMark char
  match chars.dropWhile fun char => !isMark char with
  | [] => none
  | _ :: exponent =>
      (readPlain? base).bind fun decimal =>
        match exponent with
        | '-' :: digits =>
            (readExponentMagnitude? digits).bind (shiftDown? decimal)
        | _ => (readExponentMagnitude? exponent).bind (shiftUp? decimal)

/-- Read a decimal with or without an exponent. -/
def read? (chars : List Char) : Option Decimal :=
  match readPlain? chars with
  | some decimal => some decimal
  | none => readScientific? chars

end Decimal
end RowBinding
