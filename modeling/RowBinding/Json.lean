import RowBinding.Number.FloatingText

/-!
# JSON documents

A JSON number is either an integer of at most 64 bits or a finite double, and
the two never equal each other. The members of an object are kept in the order
of their keys, with one member for each key.
-/

namespace RowBinding

/-- The integers that a JSON number holds exactly. -/
def IsJsonInteger (value : Int) : Prop :=
  -9223372036854775808 ≤ value ∧ value ≤ 18446744073709551615

instance (value : Int) : Decidable (IsJsonInteger value) :=
  inferInstanceAs (Decidable (_ ∧ _))

/-- A JSON number: an integer, or a finite double. -/
inductive JsonNumber
  | integer (value : Int) (inRange : IsJsonInteger value)
  | float (value : Float64Value) (finite : value.isFinite = true)
  deriving DecidableEq

namespace JsonNumber

/-- Numbers of one sort are equal by value, and of two sorts never. -/
def equal : JsonNumber → JsonNumber → Bool
  | .integer first _, .integer second _ => first == second
  | .float first _, .float second _ => first.equal second
  | _, _ => false

/-- The number of an integer, if it is in range. -/
def ofInt? (value : Int) : Option JsonNumber :=
  if inRange : IsJsonInteger value then some (.integer value inRange) else none

/-- The number of a double, if it is finite. -/
def ofFloat? (value : Float64Value) : Option JsonNumber :=
  if finite : value.isFinite = true then some (.float value finite) else none

end JsonNumber

/-- A JSON document. -/
inductive Json
  | null
  | bool (value : Bool)
  | number (value : JsonNumber)
  | string (text : String)
  | array (items : List Json)
  | object (members : List (String × Json))

namespace Json

/-- Put a member in its place in the order of the keys, over an equal key. -/
def insertMember
    (key : String)
    (document : Json) : List (String × Json) → List (String × Json)
  | [] => [(key, document)]
  | (earlier, kept) :: rest =>
      if key < earlier then (key, document) :: (earlier, kept) :: rest
      else if key = earlier then (key, document) :: rest
      else (earlier, kept) :: insertMember key document rest

/-- The object of some members, where a later member wins over an earlier one. -/
def ofMembers (members : List (String × Json)) : Json :=
  .object (members.foldl (fun ordered member =>
    insertMember member.1 member.2 ordered) [])

/-- The member of an object with a given key. -/
def member? (members : List (String × Json)) (key : String) : Option Json :=
  (members.find? fun member => member.1 == key).map Prod.snd

/-- The document of an integer, or null if it is out of range. -/
def ofInt (value : Int) : Json :=
  ((JsonNumber.ofInt? value).map Json.number).getD .null

/-- The document of a double, or null if it is not finite. -/
def ofFloat (value : Float64Value) : Json :=
  ((JsonNumber.ofFloat? value).map Json.number).getD .null

mutual

/-- Equality of documents. -/
def equal : Json → Json → Bool
  | .null, .null => true
  | .bool first, .bool second => first == second
  | .number first, .number second => first.equal second
  | .string first, .string second => first == second
  | .array first, .array second => equalItems first second
  | .object first, .object second => equalMembers first second
  | _, _ => false

/-- Equality of the items of two arrays. -/
def equalItems : List Json → List Json → Bool
  | [], [] => true
  | first :: firstRest, second :: secondRest =>
      equal first second && equalItems firstRest secondRest
  | _, _ => false

/-- Equality of the members of two objects. -/
def equalMembers : List (String × Json) → List (String × Json) → Bool
  | [], [] => true
  | (firstKey, first) :: firstRest, (secondKey, second) :: secondRest =>
      firstKey == secondKey && equal first second && equalMembers firstRest secondRest
  | _, _ => false

end

end Json
end RowBinding
