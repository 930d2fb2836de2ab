import RowBinding.Text.Digits
import RowBinding.Text.Printable

/-!
# Inspected text

Text and characters as they are shown inside a description of a value: in
quotes, with the quote, the backslash and the common controls escaped by a
letter, and every other character that does not stand alone by its number.
-/

namespace RowBinding
namespace Text

/-- A character inside an inspected text with a given quote. -/
def escapeInspected (quote char : Char) : List Char :=
  if char == quote || char == '\\' then ['\\', char]
  else if char == '\x00' then ['\\', '0']
  else if char == '\t' then ['\\', 't']
  else if char == '\n' then ['\\', 'n']
  else if char == '\r' then ['\\', 'r']
  else if isPlain char then [char]
  else '\\' :: 'u' :: '\x7b' :: hexDigits char.toNat ++ ['\x7d']

/-- A text in double quotes. -/
def inspectString (text : String) : String :=
  "\"" ++ String.ofList (text.toList.flatMap (escapeInspected '"')) ++ "\""

/-- A character in single quotes. -/
def inspectChar (char : Char) : String :=
  "'" ++ String.ofList (escapeInspected '\'' char) ++ "'"

/-- Items in brackets with commas between them. -/
def inspectList (items : List String) : String :=
  "[" ++ ", ".intercalate items ++ "]"

/-- A structure: its name, and its fields by name. -/
def inspectFields (name : String) (fields : List (String × String)) : String :=
  name ++ " \x7b " ++
    ", ".intercalate (fields.map fun field => field.1 ++ ": " ++ field.2) ++ " \x7d"

/-- A truth value. -/
def inspectBool (value : Bool) : String :=
  if value then "true" else "false"

end Text
end RowBinding
