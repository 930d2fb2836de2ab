import RowBinding.Value.Text

/-!
# Values as JSON documents

Numbers, truth values, lists and records become their counterparts, documents
stay as they are, and every other value becomes its display text. A number
without a JSON form becomes null.
-/

namespace RowBinding
namespace Value

mutual

/-- The document of a value. -/
def toJson : Value → Json
  | .null => .null
  | .boolean value => .bool value
  | .integer value => .ofInt value.value
  | .float32 value => .ofFloat (value.toFormat binary64)
  | .float64 value => .ofFloat value
  | .json document => document
  | .list items => .array (itemsToJson items)
  | .record _ fields => .ofMembers (fieldsToJson fields)
  | value => .string value.toText
termination_by structural value => value

/-- The documents of the items of a list. -/
def itemsToJson : List Value → List Json
  | [] => []
  | item :: rest => toJson item :: itemsToJson rest
termination_by structural items => items

/-- The members of the fields of a record. -/
def fieldsToJson : List (String × Value) → List (String × Json)
  | [] => []
  | (name, value) :: rest => (name, toJson value) :: fieldsToJson rest
termination_by structural fields => fields

end

end Value
end RowBinding
