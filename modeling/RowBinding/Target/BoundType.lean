import RowBinding.Conversion
import RowBinding.Json.Reading
import RowBinding.Value.ToJson

/-!
# Types of bound members

The types in which a typed setter or a scalar target receives what a column
delivers. Receiving a value converts it to the type, gives null the default of
the type, and keeps null apart only where the type is optional.

A JSON document is received as a whole, or read in a given shape from a
document or from its text.
-/

namespace RowBinding

/-- The shape in which a JSON document is received. -/
inductive JsonShape
  /-- Every document. -/
  | any
  /-- An array of integers of 64 bits. -/
  | integers
  /-- A string. -/
  | text
  /-- An integer of 32 bits. -/
  | integer
  deriving DecidableEq

namespace JsonShape

/-- The document that stands for nothing in a shape. -/
def default : JsonShape → Json
  | .any => .null
  | .integers => .array []
  | .text => .string ""
  | .integer => .ofInt 0

/-- Whether a document is an integer of a kind. -/
def isInteger (kind : IntegerKind) : Json → Bool
  | .number (.integer value _) => decide (kind.Contains value)
  | _ => false

/-- Whether a document has a shape. -/
def fits : JsonShape → Json → Bool
  | .any, _ => true
  | .integers, .array items => items.all (isInteger .int64)
  | .text, .string _ => true
  | .integer, document => isInteger .int32 document
  | _, _ => false

/-- A document of a shape. -/
def read (shape : JsonShape) (document : Json) : Except ValueError Json :=
  if shape.fits document then .ok document else .error .json

end JsonShape

/-- A type in which bound values are received. -/
inductive BoundType
  /-- A value of a column type. -/
  | primitive (type : DataType)
  /-- Any value as it is. -/
  | value
  /-- Any value as a JSON document. -/
  | anyDocument
  /-- A JSON document, or the text of one, in a shape. -/
  | shaped (shape : JsonShape)
  /-- Null, or a value received in another type. -/
  | optional (inner : BoundType)
  deriving DecidableEq

namespace BoundType

/-- The value that null becomes in a column type. -/
def defaultOf : DataType → Value
  | .string => .string ""
  | .bytes => .bytes []
  | type => type.zeroValue

/-- Receive a value in a type. -/
def receive : BoundType → Value → Except ValueError Value
  | .primitive type, cell =>
      if cell.isNull then .ok (defaultOf type)
      else cell.convert DateTime.defaultLayouts type
  | .value, cell => .ok cell
  | .anyDocument, cell => .ok (.json cell.toJson)
  | .shaped shape, .null => .ok (.json shape.default)
  | .shaped shape, .json document => (shape.read document).map .json
  | .shaped shape, .string text =>
      match Json.read? text with
      | some document => (shape.read document).map .json
      | none => .error .json
  | .shaped _, cell => .error (.typeMismatch "Json" cell.typeName)
  | .optional _, .null => .ok .null
  | .optional inner, cell => inner.receive cell

/-- Receive each value in the type at its place; values behind the last type stay. -/
def receiveAll : List BoundType → List Value → Except ValueError (List Value)
  | type :: types, cell :: cells => do
      return (← type.receive cell) :: (← receiveAll types cells)
  | _, cells => .ok cells

end BoundType
end RowBinding
