import RowBinding.Value

/-!
# Equality of values

Two values are equal when they are of one variant and hold equal contents.
Floats are compared as numbers, so what is not a number differs from itself,
decimals are compared by their value whatever their scale, and a quoted
expression equals no value at all.
-/

namespace RowBinding
namespace Value

mutual

/-- Equality of values. -/
def equal : Value → Value → Bool
  | .null, .null => true
  | .boolean first, .boolean second => first == second
  | .integer first, .integer second => first == second
  | .float32 first, .float32 second => first.equal second
  | .float64 first, .float64 second => first.equal second
  | .decimal first, .decimal second => first.equal second
  | .char first, .char second => first == second
  | .string first, .string second => first == second
  | .dateTime first, .dateTime second => first == second
  | .guid first, .guid second => first == second
  | .bytes first, .bytes second => first == second
  | .json first, .json second => first.equal second
  | .list first, .list second => equalItems first second
  | .record firstName first, .record secondName second =>
      firstName == secondName && equalFields first second
  | _, _ => false
termination_by structural value => value

/-- Equality of the items of two lists. -/
def equalItems : List Value → List Value → Bool
  | [], [] => true
  | first :: firstRest, second :: secondRest =>
      equal first second && equalItems firstRest secondRest
  | _, _ => false
termination_by structural items => items

/-- Equality of the fields of two records, in their order. -/
def equalFields : List (String × Value) → List (String × Value) → Bool
  | [], [] => true
  | (firstName, first) :: firstRest, (secondName, second) :: secondRest =>
      firstName == secondName && equal first second && equalFields firstRest secondRest
  | _, _ => false
termination_by structural fields => fields

end

end Value
end RowBinding
