import RowBinding.Json

/-!
# Text of JSON documents

The compact text of a document: no space between its elements, members in the
order of their keys, and only those characters escaped that have to be.
-/

namespace RowBinding
namespace Json

/-- A character inside a quoted text. -/
def escapeChar (char : Char) : List Char :=
  match char with
  | '"' => ['\\', '"']
  | '\\' => ['\\', '\\']
  | '\x08' => ['\\', 'b']
  | '\x0c' => ['\\', 'f']
  | '\n' => ['\\', 'n']
  | '\r' => ['\\', 'r']
  | '\t' => ['\\', 't']
  | _ =>
      if char.toNat < 0x20 then
        '\\' :: 'u' :: Text.padZeros 4 (Text.hexDigits char.toNat)
      else
        [char]

/-- A text in quotes. -/
def quote (text : String) : String :=
  "\"" ++ String.ofList (text.toList.flatMap escapeChar) ++ "\""

end Json

/-- Text of a JSON number. -/
def JsonNumber.toText : JsonNumber → String
  | .integer value _ => Text.ofInt value
  | .float value _ => value.text .document

namespace Json

mutual

/-- Compact text of a document. -/
def toText : Json → String
  | .null => "null"
  | .bool value => if value then "true" else "false"
  | .number value => value.toText
  | .string text => quote text
  | .array items => "[" ++ itemsText items ++ "]"
  | .object members => "\x7b" ++ membersText members ++ "\x7d"

/-- Text of the items of an array. -/
def itemsText : List Json → String
  | [] => ""
  | [item] => toText item
  | item :: rest => toText item ++ "," ++ itemsText rest

/-- Text of the members of an object. -/
def membersText : List (String × Json) → String
  | [] => ""
  | [(key, value)] => quote key ++ ":" ++ toText value
  | (key, value) :: rest => quote key ++ ":" ++ toText value ++ "," ++ membersText rest

end

end Json
end RowBinding
