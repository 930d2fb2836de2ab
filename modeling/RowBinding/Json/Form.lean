import RowBinding.Text.Digits

/-!
# The written form of JSON

Reading a JSON text has two steps. The first follows the grammar alone and
yields a tree of what is written: the digits of a number, the characters and
escapes of a string, the members of an object in their order. What the tree
means, and whether it means anything, is left to the second step.
-/

namespace RowBinding

/-- A character of a string, or an escape by the number of a code unit. -/
inductive JsonUnit
  | char (char : Char)
  | escape (code : Nat)
  deriving DecidableEq

/-- The digits of a written number. -/
structure NumberForm where
  negative : Bool
  whole : List Char
  /-- The digits behind the point; there is no point when there are none. -/
  fraction : List Char
  /-- Whether the exponent is negative, and its digits. -/
  exponent : Option (Bool × List Char)
  deriving DecidableEq

/-- What is written in a JSON text. -/
inductive JsonForm
  | null
  | bool (value : Bool)
  | number (form : NumberForm)
  | string (units : List JsonUnit)
  | array (items : List JsonForm)
  | object (members : List (List JsonUnit × JsonForm))

namespace JsonForm

/-- The characters between the elements of a JSON text. -/
def isSpace (char : Char) : Bool :=
  char == ' ' || char == '\n' || char == '\t' || char == '\r'

/-- Drop the space in front. -/
def skipSpace (chars : List Char) : List Char :=
  chars.dropWhile isSpace

/-- The rest of a text behind a given beginning. -/
def behind? (beginning chars : List Char) : Option (List Char) :=
  if beginning.isPrefixOf chars then some (chars.drop beginning.length) else none

/-- The character that a letter behind a backslash stands for. -/
def escapedChar? : Char → Option Char
  | '"' => some '"'
  | '\\' => some '\\'
  | '/' => some '/'
  | 'b' => some '\x08'
  | 'f' => some '\x0c'
  | 'n' => some '\n'
  | 'r' => some '\r'
  | 't' => some '\t'
  | _ => none

/-- Read the units of a string up to its closing quote. -/
def readUnits? : List Char → Option (List JsonUnit × List Char)
  | '"' :: rest => some ([], rest)
  | '\\' :: 'u' :: first :: second :: third :: fourth :: rest => do
      let code ← Text.hexDigitsValue? [first, second, third, fourth]
      let (units, rest) ← readUnits? rest
      return (.escape code :: units, rest)
  | '\\' :: letter :: rest => do
      let char ← escapedChar? letter
      let (units, rest) ← readUnits? rest
      return (.char char :: units, rest)
  | char :: rest =>
      if char.toNat < 0x20 || char == '\\' then none
      else do
        let (units, rest) ← readUnits? rest
        return (.char char :: units, rest)
  | [] => none

/-- Read the exponent of a number, if it has one. -/
def readExponent? (chars : List Char) :
    Option (Option (Bool × List Char) × List Char) :=
  match chars with
  | mark :: rest =>
      if mark == 'e' || mark == 'E' then
        let (negative, body) := Text.splitSign rest
        let (digits, rest) := Text.spanDigits body
        if digits.isEmpty then none else some (some (negative, digits), rest)
      else
        some (none, chars)
  | [] => some (none, [])

/-- Read the digits behind the point of a number, if it has one. -/
def readFraction? (chars : List Char) : Option (List Char × List Char) :=
  match chars with
  | '.' :: rest =>
      let (digits, rest) := Text.spanDigits rest
      if digits.isEmpty then none else some (digits, rest)
  | _ => some ([], chars)

/-- Read a number; only the number zero begins with a zero. -/
def readNumber? (chars : List Char) : Option (NumberForm × List Char) :=
  let (negative, body) :=
    match chars with
    | '-' :: rest => (true, rest)
    | _ => (false, chars)
  let (whole, rest) := Text.spanDigits body
  if whole.isEmpty || (whole.head? = some '0' && whole.length != 1) then none
  else do
    let (fraction, rest) ← readFraction? rest
    let (exponent, rest) ← readExponent? rest
    return (⟨negative, whole, fraction, exponent⟩, rest)

mutual

/-- Read one value, with a bound on the number of readings inside it. -/
def readValue? : Nat → List Char → Option (JsonForm × List Char)
  | 0, _ => none
  | bound + 1, chars =>
      match skipSpace chars with
      | '"' :: rest =>
          (readUnits? rest).map fun (units, rest) => (.string units, rest)
      | '[' :: rest =>
          match skipSpace rest with
          | ']' :: rest => some (.array [], rest)
          | rest => (readItems? bound rest).map fun (items, rest) => (.array items, rest)
      | '\x7b' :: rest =>
          match skipSpace rest with
          | '\x7d' :: rest => some (.object [], rest)
          | rest =>
              (readMembers? bound rest).map fun (members, rest) => (.object members, rest)
      | 'n' :: rest => (behind? "ull".toList rest).map fun rest => (.null, rest)
      | 't' :: rest => (behind? "rue".toList rest).map fun rest => (.bool true, rest)
      | 'f' :: rest => (behind? "alse".toList rest).map fun rest => (.bool false, rest)
      | rest => (readNumber? rest).map fun (form, rest) => (.number form, rest)

/-- Read the items of an array up to its closing bracket. -/
def readItems? : Nat → List Char → Option (List JsonForm × List Char)
  | 0, _ => none
  | bound + 1, chars =>
      (readValue? bound chars).bind fun (item, rest) =>
        match skipSpace rest with
        | ',' :: rest =>
            (readItems? bound rest).map fun (items, rest) => (item :: items, rest)
        | ']' :: rest => some ([item], rest)
        | _ => none

/-- Read the members of an object up to its closing brace. -/
def readMembers? :
    Nat → List Char → Option (List (List JsonUnit × JsonForm) × List Char)
  | 0, _ => none
  | bound + 1, chars =>
      match skipSpace chars with
      | '"' :: rest =>
          (readUnits? rest).bind fun (key, rest) =>
            match skipSpace rest with
            | ':' :: rest =>
                (readValue? bound rest).bind fun (value, rest) =>
                  match skipSpace rest with
                  | ',' :: rest =>
                      (readMembers? bound rest).map fun (members, rest) =>
                        ((key, value) :: members, rest)
                  | '\x7d' :: rest => some ([(key, value)], rest)
                  | _ => none
            | _ => none
      | _ => none

end

/-- Read a text that is one value with nothing but space around it. -/
def read? (text : String) : Option JsonForm :=
  let chars := text.toList
  match readValue? (2 * chars.length + 2) chars with
  | some (form, rest) => if (skipSpace rest).isEmpty then some form else none
  | none => none

end JsonForm
end RowBinding
