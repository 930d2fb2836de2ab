import RowBinding.Text.Digits

/-!
# Globally unique identifiers

An identifier is a number of 128 bits. Its text has 32 hexadecimal digits in
five groups parted by hyphens.

Reading takes the digits in either case, bare or in groups, and the grouped
form also in braces or behind a name space mark.
-/

namespace RowBinding

/-- A globally unique identifier of 128 bits. -/
structure Guid where
  number : Fin 340282366920938463463374607431768211456
  deriving DecidableEq

namespace Guid

/-- The identifier with no bit set. -/
def nil : Guid :=
  ⟨0⟩

/-- The 32 hexadecimal digits of an identifier. -/
def digits (guid : Guid) : List Char :=
  Text.padZeros 32 (Text.hexDigits guid.number)

/-- Hyphens between the groups of 8, 4, 4, 4 and 12 digits. -/
def hyphenate (digits : List Char) : List Char :=
  digits.take 8 ++ '-' :: (digits.drop 8).take 4 ++ '-' :: (digits.drop 12).take 4 ++
    '-' :: (digits.drop 16).take 4 ++ '-' :: digits.drop 20

/-- Lower-case text in five groups. -/
def toText (guid : Guid) : String :=
  String.ofList (hyphenate guid.digits)

/-- Read exactly 32 hexadecimal digits. -/
def readDigits? (chars : List Char) : Option Guid :=
  if chars.length = 32 then
    (Text.hexDigitsValue? chars).bind fun number =>
      if bounded : number < 340282366920938463463374607431768211456 then
        some ⟨⟨number, bounded⟩⟩
      else
        none
  else
    none

/-- Read digits in five groups. -/
def readGroups? (chars : List Char) : Option Guid :=
  let digits :=
    chars.take 8 ++ (chars.drop 9).take 4 ++ (chars.drop 14).take 4 ++
      (chars.drop 19).take 4 ++ chars.drop 24
  if chars.length = 36 && hyphenate digits == chars then readDigits? digits else none

/-- The mark that may stand in front of a grouped identifier, in any case. -/
def nameSpaceMark : List Char :=
  "urn:uuid:".toList

/-- Read an identifier in any of its written forms. -/
def read? (chars : List Char) : Option Guid :=
  match chars with
  | '\x7b' :: rest =>
      if rest.getLast? = some '\x7d' then readGroups? rest.dropLast else none
  | _ =>
      if (chars.take nameSpaceMark.length).map Char.toLower = nameSpaceMark then
        readGroups? (chars.drop nameSpaceMark.length)
      else if chars.length = 36 then readGroups? chars
      else readDigits? chars

end Guid
end RowBinding
