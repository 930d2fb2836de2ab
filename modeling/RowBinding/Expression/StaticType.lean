import RowBinding.DataType

/-!
# Static types

The type of an expression as it is known before evaluation. It is coarser than
the type of a value: the integers have three widths, and lists, records and
quoted expressions have a type each.
-/

namespace RowBinding

/-- The type of an expression before evaluation. -/
inductive StaticType
  | object
  | boolean
  | int16
  | int32
  | int64
  | float64
  | decimal
  | string
  | char
  | dateTime
  | guid
  | array
  | record
  | expression
  deriving DecidableEq

namespace StaticType

/-- Every static type. -/
def all : List StaticType :=
  [.object, .boolean, .int16, .int32, .int64, .float64, .decimal, .string, .char,
    .dateTime, .guid, .array, .record, .expression]

/-- The name of a static type. -/
def name : StaticType → String
  | .object => "Object"
  | .boolean => "Boolean"
  | .int16 => "Int16"
  | .int32 => "Int32"
  | .int64 => "Int64"
  | .float64 => "Float64"
  | .decimal => "Decimal"
  | .string => "String"
  | .char => "Char"
  | .dateTime => "DateTime"
  | .guid => "Guid"
  | .array => "Array"
  | .record => "Record"
  | .expression => "Expression"

/-- The static type with a given name. -/
def ofName? (name : String) : Option StaticType :=
  all.find? fun type => type.name == name

/-- The type that a conversion to a static type aims at, if there is one. -/
def dataType? : StaticType → Option DataType
  | .object => some .object
  | .boolean => some .boolean
  | .int16 => some (.integer .int16)
  | .int32 => some (.integer .int32)
  | .int64 => some (.integer .int64)
  | .float64 => some .float64
  | .decimal => some .decimal
  | .string => some .string
  | .char => some .char
  | .dateTime => some .dateTime
  | .guid => some .guid
  | .array | .record | .expression => none

end StaticType
end RowBinding
