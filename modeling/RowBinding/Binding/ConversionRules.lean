import RowBinding.Target.MemberType

/-!
# Conversion rules

The fixed policy for binding a column to a member. A column type is read by
one operation, if it can be read at all, and what the operation yields becomes
a member of a type on one path: as it is, or through a conversion at the time
of the row.
-/

namespace RowBinding

/-- How a cell of a column is read. -/
inductive ReadOperation
  /-- Whatever the source holds. -/
  | getValue
  | getBoolean
  | getByte
  | getInt16
  | getInt32
  | getInt64
  | getFloat
  | getDouble
  | getDecimal
  | getChar
  | getString
  | getDateTime
  deriving DecidableEq

namespace ReadOperation

/-- The type of what an operation reads. -/
def resultType : ReadOperation → DataType
  | .getValue => .object
  | .getBoolean => .boolean
  | .getByte => .integer .byte
  | .getInt16 => .integer .int16
  | .getInt32 => .integer .int32
  | .getInt64 => .integer .int64
  | .getFloat => .float32
  | .getDouble => .float64
  | .getDecimal => .decimal
  | .getChar => .char
  | .getString => .string
  | .getDateTime => .dateTime

/-- The name of an operation. -/
def name : ReadOperation → String
  | .getValue => "GetValue"
  | .getBoolean => "GetBoolean"
  | .getByte => "GetByte"
  | .getInt16 => "GetInt16"
  | .getInt32 => "GetInt32"
  | .getInt64 => "GetInt64"
  | .getFloat => "GetFloat"
  | .getDouble => "GetDouble"
  | .getDecimal => "GetDecimal"
  | .getChar => "GetChar"
  | .getString => "GetString"
  | .getDateTime => "GetDateTime"

/-- Whether what is read becomes numeric text first. -/
def normalizesNumeric : ReadOperation → Bool
  | .getFloat | .getDouble | .getDecimal => true
  | _ => false

/-- Whether a value is what an operation reads. -/
def accepts (operation : ReadOperation) (value : Value) : Bool :=
  operation = .getValue || value.dataType? = some operation.resultType

end ReadOperation

/-- How a value that was read becomes the value of a member. -/
inductive ConversionPath
  /-- As it is. -/
  | identity
  /-- Converted into a type at the time of the row. -/
  | convert (target : DataType)
  deriving DecidableEq

/-- Inspected text of a conversion path. -/
def ConversionPath.inspect : ConversionPath → String
  | .identity => "Identity"
  | .convert target => "Convert(" ++ target.name ++ ")"

namespace ConversionRules

/-- The operation that reads columns of a type, if there is one. -/
def readOperation? : DataType → Option ReadOperation
  | .object => some .getValue
  | .integer kind =>
      match kind with
      | .uint16 | .uint32 | .uint64 | .sbyte => some .getValue
      | .byte => some .getByte
      | .int16 => some .getInt16
      | .int32 => some .getInt32
      | .int64 => some .getInt64
  | .boolean => some .getBoolean
  | .float32 => some .getFloat
  | .float64 => some .getDouble
  | .decimal => some .getDecimal
  | .char => some .getChar
  | .string => some .getString
  | .dateTime => some .getDateTime
  | .guid | .bytes | .time => none

/-- Whether values of one type convert into values of another one. -/
def allows (source target : DataType) : Bool :=
  match source with
  | .object => true
  | .string => target != .bytes && target != .time
  | .boolean => target.isNumeric || target = .string
  | .char => target.isInteger || target = .string
  | .dateTime => target = .string
  | .integer _ =>
      target.isNumeric || target = .boolean || target = .string || target = .char
  | .float32 | .float64 | .decimal =>
      target.isNumeric || target = .boolean || target = .string
  | .guid | .bytes | .time => false

/-- The path from values of a type to a member, if the pair is supported. -/
def conversion? (source : DataType) (member : MemberType) : Option ConversionPath :=
  match member.dataType? with
  | none => none
  | some target =>
      if target = .object || target = source then some .identity
      else if allows source target then some (.convert target)
      else none

end ConversionRules
end RowBinding
