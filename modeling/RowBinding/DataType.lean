import RowBinding.Number.Integer

/-!
# Column types

The types that a row source reports for its columns, each with the name it has
in messages and in keys.
-/

namespace RowBinding

namespace IntegerKind

/-- The name of a kind of integer. -/
def name : IntegerKind → String
  | .byte => "Byte"
  | .sbyte => "SByte"
  | .int16 => "Int16"
  | .uint16 => "UInt16"
  | .int32 => "Int32"
  | .uint32 => "UInt32"
  | .int64 => "Int64"
  | .uint64 => "UInt64"

end IntegerKind

/-- The type of a column. -/
inductive DataType
  | object
  | boolean
  | integer (kind : IntegerKind)
  | float32
  | float64
  | decimal
  | char
  | string
  | dateTime
  | guid
  | bytes
  | time
  deriving DecidableEq

namespace DataType

/-- Every column type. -/
def all : List DataType :=
  [.object, .boolean] ++ IntegerKind.all.map .integer ++
    [.float32, .float64, .decimal, .char, .string, .dateTime, .guid, .bytes, .time]

/-- The name of a column type. -/
def name : DataType → String
  | .object => "Object"
  | .boolean => "Boolean"
  | .integer kind => kind.name
  | .float32 => "Float32"
  | .float64 => "Float64"
  | .decimal => "Decimal"
  | .char => "Char"
  | .string => "String"
  | .dateTime => "DateTime"
  | .guid => "Guid"
  | .bytes => "Bytes"
  | .time => "Time"

/-- Whether the type is one of the kinds of integer. -/
def isInteger : DataType → Bool
  | .integer _ => true
  | _ => false

/-- Whether the type is an integer, a float or a decimal. -/
def isNumeric : DataType → Bool
  | .integer _ | .float32 | .float64 | .decimal => true
  | _ => false

/-- The column type with a given name. -/
def ofName? (name : String) : Option DataType :=
  all.find? fun type => type.name == name

end DataType
end RowBinding
