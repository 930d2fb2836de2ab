import RowBinding.Number.Shortest

/-!
# Text of floating-point numbers

A float is written with its shortest digits in one of three styles. The styles
differ in the exponents that are written out in full, in the zero behind the
point of a whole number, in the sign of a written exponent, and in which of two
equally near numbers of the shortest length is taken.

Reading accepts an optional sign, digits with at most one point, an optional
exponent, and the names of infinity and of what is not a number in any case.
The number read is rounded once.
-/

namespace RowBinding

/-- How a float is written. -/
structure FloatStyle where
  /-- Whether a number whose first digit has this exponent is written in full. -/
  writtenInFull : Int → Bool
  /-- Whether a whole number keeps a zero behind the point. -/
  keepsPoint : Bool
  /-- Whether an exponent that is not negative carries a plus sign. -/
  signsExponent : Bool
  /-- Which of two equally near numbers is taken. -/
  tie : TieRule

namespace FloatStyle

/-- Always written in full, whole numbers without a point. -/
def plain : FloatStyle where
  writtenInFull _ := true
  keepsPoint := false
  signsExponent := false
  tie := .greater

/-- Written in full from one ten-thousandth up to sixteen digits, with a point. -/
def inspected : FloatStyle where
  writtenInFull exponent := decide (-4 ≤ exponent ∧ exponent < 16)
  keepsPoint := true
  signsExponent := false
  tie := .greater

/-- Written in full from five places behind the point to sixteen before it. -/
def document : FloatStyle where
  writtenInFull exponent := decide (-5 ≤ exponent ∧ exponent < 16)
  keepsPoint := true
  signsExponent := true
  tie := .even

/-- Digits before and behind the point. -/
def joinPoint (style : FloatStyle) (whole fraction : List Char) : List Char :=
  if fraction.isEmpty then
    if style.keepsPoint then whole ++ ['.', '0'] else whole
  else
    whole ++ '.' :: fraction

/-- Digits in scientific form, with no point behind a single digit. -/
def joinExponent (style : FloatStyle) (scientific : Scientific) : List Char :=
  let coefficient :=
    match scientific.digits with
    | [] => []
    | [digit] => [digit]
    | digit :: rest => digit :: '.' :: rest
  let sign :=
    if style.signsExponent && 0 ≤ scientific.exponent then ['+'] else []
  coefficient ++ 'e' :: sign ++ (Text.ofInt scientific.exponent).toList

/-- The digits of a positive number in a style. -/
def join (style : FloatStyle) (scientific : Scientific) : List Char :=
  if style.writtenInFull scientific.exponent then
    style.joinPoint scientific.positional.1 scientific.positional.2
  else
    style.joinExponent scientific

end FloatStyle

namespace Floating

variable {format : FloatFormat}

/-- Text of a float in a style. -/
def text (style : FloatStyle) : Floating format → String
  | .nan => "NaN"
  | .signed negative rank _ =>
      let magnitude :=
        if rank = format.infinityRank then "inf".toList
        else if rank = 0 then style.joinPoint ['0'] []
        else style.join (format.shortest style.tie rank)
      String.ofList (if negative then '-' :: magnitude else magnitude)

/-- Text of a float in full, as conversions to text write it. -/
def toText (float : Floating format) : String :=
  float.text .plain

/--
The float nearest to a coefficient times a power of ten.

A number with its first digit beyond four hundred places is too large or too
small for every format, so its power of ten is never computed.
-/
def ofDecimal (negative : Bool) (coefficient : Nat) (exponent : Int) :
    Floating format :=
  let places := decimalLength coefficient + exponent
  if coefficient = 0 || places < -400 then zero negative
  else if 400 < places then infinity negative
  else round negative (coefficient * (10 : Rat) ^ exponent)

/-- Read an exponent mark with its exponent, or the end of the text. -/
def readExponent? : List Char → Option Int
  | [] => some 0
  | 'e' :: rest => Text.readInt? rest
  | 'E' :: rest => Text.readInt? rest
  | _ => none

/-- Read the magnitude of a number as a coefficient and a power of ten. -/
def readMagnitude? (chars : List Char) : Option (Nat × Int) :=
  let (whole, afterWhole) := Text.spanDigits chars
  let (fraction, rest) :=
    match afterWhole with
    | '.' :: behind => Text.spanDigits behind
    | _ => ([], afterWhole)
  if whole.isEmpty && fraction.isEmpty then
    none
  else
    (readExponent? rest).map fun exponent =>
      (Text.digitsValue (whole ++ fraction), exponent - fraction.length)

/-- Read a float; the number is rounded once to the nearest float. -/
def read? (chars : List Char) : Option (Floating format) :=
  let (negative, body) := Text.splitSign chars
  let word := String.ofList (body.map Char.toLower)
  if word == "inf" || word == "infinity" then some (infinity negative)
  else if word == "nan" then some .nan
  else
    (readMagnitude? body).map fun (coefficient, exponent) =>
      ofDecimal negative coefficient exponent

end Floating
end RowBinding
