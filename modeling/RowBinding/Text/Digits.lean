/-!
# Decimal and hexadecimal digits

Numbers are written with ASCII digits only. A run of digits is read as the
number it denotes, most significant digit first, and a number is written with
no leading zero.

Case-insensitive comparison of names folds ASCII letters alone; every other
character has to agree exactly.
-/

namespace RowBinding
namespace Text

/-- The value of an ASCII decimal digit. -/
def digitValue (char : Char) : Nat :=
  char.toNat - '0'.toNat

/-- The number that a run of decimal digits denotes. -/
def digitsValue (digits : List Char) : Nat :=
  digits.foldl (fun value digit => 10 * value + digitValue digit) 0

/-- The character of a digit below sixteen, in lower case. -/
def digitChar (digit : Nat) : Char :=
  Nat.digitChar digit

/-- The decimal digits of a number. -/
def decimalDigits (number : Nat) : List Char :=
  Nat.toDigits 10 number

/-- Decimal text of a natural number. -/
def ofNat (number : Nat) : String :=
  String.ofList (decimalDigits number)

/-- Decimal text of an integer, with a minus sign when it is negative. -/
def ofInt (number : Int) : String :=
  (if number < 0 then "-" else "") ++ ofNat number.natAbs

/-- Digits filled up with zeros in front to a given width. -/
def padZeros (width : Nat) (digits : List Char) : List Char :=
  List.replicate (width - digits.length) '0' ++ digits

/-- Decimal text filled up with zeros in front to a given width. -/
def ofNatPadded (width number : Nat) : String :=
  String.ofList (padZeros width (decimalDigits number))

/-- The leading decimal digits of a text and the rest behind them. -/
def spanDigits (chars : List Char) : List Char × List Char :=
  (chars.takeWhile Char.isDigit, chars.dropWhile Char.isDigit)

/-- Whether a text is a non-empty run of decimal digits. -/
def isDigits (chars : List Char) : Bool :=
  !chars.isEmpty && chars.all Char.isDigit

/-- Value of a hexadecimal digit in either case. -/
def hexValue? (char : Char) : Option Nat :=
  if char.isDigit then some (digitValue char)
  else if 'a' ≤ char && char ≤ 'f' then some (char.toNat - 'a'.toNat + 10)
  else if 'A' ≤ char && char ≤ 'F' then some (char.toNat - 'A'.toNat + 10)
  else none

/-- The number that a run of hexadecimal digits denotes. -/
def hexDigitsValue? (digits : List Char) : Option Nat :=
  digits.foldlM (fun value digit => (hexValue? digit).map (16 * value + ·)) 0

/-- Lower-case hexadecimal digits of a number. -/
def hexDigits (number : Nat) : List Char :=
  Nat.toDigits 16 number

/-- Equality of two texts up to the case of ASCII letters. -/
def equalIgnoringCase (first second : String) : Bool :=
  first.toList.map Char.toLower == second.toList.map Char.toLower

/--
An optional sign in front of a text.

The result says whether the sign was a minus and gives the text behind it.
-/
def splitSign : List Char → Bool × List Char
  | '-' :: rest => (true, rest)
  | '+' :: rest => (false, rest)
  | chars => (false, chars)

/-- Read an integer written as an optional sign and decimal digits. -/
def readInt? (chars : List Char) : Option Int :=
  let (negative, digits) := splitSign chars
  if isDigits digits then
    let magnitude : Int := digitsValue digits
    some (if negative then -magnitude else magnitude)
  else
    none

end Text
end RowBinding
