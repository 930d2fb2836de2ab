import RowBinding.DateTime
import RowBinding.Expression.Operator
import RowBinding.Expression.Reference
import RowBinding.Fields
import RowBinding.Guid
import RowBinding.Json
import RowBinding.Number.Decimal

/-!
# Values and expressions

The values that rows hold and that expressions evaluate to, together with the
expressions themselves. The two are defined at once: a constant is an
expression that holds a value, and a quoted expression is a value that holds an
expression.
-/

namespace RowBinding

mutual

/-- A value of a row or of an expression. -/
inductive Value
  | null
  | boolean (value : Bool)
  | integer (value : Integer)
  | float32 (value : Float32Value)
  | float64 (value : Float64Value)
  | decimal (value : Decimal)
  | char (value : Char)
  | string (value : String)
  | dateTime (value : DateTime)
  | guid (value : Guid)
  | bytes (value : List UInt8)
  | json (document : Json)
  | list (items : List Value)
  | record (typeName : String) (fields : List (String × Value))
  | quoted (expression : Expr)

/-- A node of a predicate or selector tree. -/
inductive Expr
  | lambda (parameters : List String) (body : Expr)
  | parameter (name : String) (type : StaticType)
  | constant (value : Value) (type : StaticType)
  | member (owner : Expr) (member : MemberRef)
  | staticMember (member : MemberRef)
  | call (receiver : Expr) (method : MethodRef) (arguments : List Expr)
  | staticCall (method : MethodRef) (arguments : List Expr)
  | unary (operator : UnaryOperator) (operand : Expr) (type : StaticType)
  | binary (operator : BinaryOperator) (left right : Expr)
  | binaryBy (operator : BinaryOperator) (left right : Expr) (method : MethodRef)
  | conditional (test onTrue onFalse : Expr)
  | construct (constructor : ConstructorRef) (arguments : List Expr)
  | memberInit
      (constructor : ConstructorRef)
      (arguments : List Expr)
      (bindings : List (MemberRef × Expr))
  | listInit
      (constructor : ConstructorRef)
      (arguments : List Expr)
      (items : List Expr)
  | newArray (elementType : StaticType) (items : List Expr)
  | defaultOf (type : StaticType)

end

/-- An object of a captured graph: a type name with named values in order. -/
structure Record where
  typeName : String
  fields : List (String × Value)

namespace Record

/-- A record without fields. -/
def empty (typeName : String) : Record :=
  ⟨typeName, []⟩

/-- The value of a field. -/
def get? (record : Record) (name : String) : Option Value :=
  Fields.get? record.fields name

/-- Give a field a value, in place or at the end. -/
def set (record : Record) (name : String) (value : Value) : Record :=
  { record with fields := Fields.set record.fields name value }

/-- The record as a value. -/
def toValue (record : Record) : Value :=
  .record record.typeName record.fields

end Record

namespace Value

/-- Whether a value is null. -/
def isNull : Value → Bool
  | .null => true
  | _ => false

/-- The type of a value; null has none, and composite values are objects. -/
def dataType? : Value → Option DataType
  | .null => none
  | .boolean _ => some .boolean
  | .integer value => some (.integer value.kind)
  | .float32 _ => some .float32
  | .float64 _ => some .float64
  | .decimal _ => some .decimal
  | .char _ => some .char
  | .string _ => some .string
  | .dateTime _ => some .dateTime
  | .guid _ => some .guid
  | .bytes _ => some .bytes
  | .json _ | .list _ | .record _ _ | .quoted _ => some .object

/-- The name of the type of a value in messages. -/
def typeName : Value → String
  | .null => "Null"
  | .json _ => "Json"
  | .list _ => "List"
  | .record _ _ => "Record"
  | .quoted _ => "Expression"
  | .boolean _ => DataType.boolean.name
  | .integer value => value.kind.name
  | .float32 _ => DataType.float32.name
  | .float64 _ => DataType.float64.name
  | .decimal _ => DataType.decimal.name
  | .char _ => DataType.char.name
  | .string _ => DataType.string.name
  | .dateTime _ => DataType.dateTime.name
  | .guid _ => DataType.guid.name
  | .bytes _ => DataType.bytes.name

/-- The truth value that a value is. -/
def asBool? : Value → Option Bool
  | .boolean value => some value
  | _ => none

/-- The text that a value is. -/
def asString? : Value → Option String
  | .string value => some value
  | _ => none

/-- The record that a value is. -/
def asRecord? : Value → Option Record
  | .record typeName fields => some ⟨typeName, fields⟩
  | _ => none

/-- The integer that a value of one of the kinds of integer holds. -/
def asInt? : Value → Option Int
  | .integer value => some value.value
  | _ => none

/-- Whether a value is an integer, a float or a decimal. -/
def isNumeric (value : Value) : Bool :=
  match value.dataType? with
  | some type => type.isNumeric
  | none => false

/-- The static type that describes a value. -/
def staticType : Value → StaticType
  | .null => .object
  | .boolean _ => .boolean
  | .integer value =>
      match value.kind with
      | .int16 => .int16
      | .byte | .sbyte | .uint16 | .int32 => .int32
      | .uint32 | .int64 => .int64
      | .uint64 => .decimal
  | .float32 _ | .float64 _ => .float64
  | .decimal _ => .decimal
  | .char _ => .char
  | .string _ => .string
  | .dateTime _ => .dateTime
  | .guid _ => .guid
  | .bytes _ | .list _ => .array
  | .json _ | .record _ _ => .record
  | .quoted _ => .expression

@[simp] theorem dataType?_eq_none_iff (value : Value) :
    value.dataType? = none ↔ value.isNull = true := by
  cases value <;> simp [dataType?, isNull]

theorem isNull_of_dataType?
    {value : Value}
    {type : DataType}
    (typed : value.dataType? = some type) :
    value.isNull = false := by
  rw [Bool.eq_false_iff, ne_eq, ← dataType?_eq_none_iff, typed]
  exact Option.some_ne_none type

end Value

/-- The value that stands for nothing of a column type, or null. -/
def DataType.zeroValue : DataType → Value
  | .boolean => .boolean false
  | .integer kind => .integer (Integer.zero kind)
  | .float32 => .float32 (Floating.zero false)
  | .float64 => .float64 (Floating.zero false)
  | .decimal => .decimal Decimal.zero
  | .char => .char '\x00'
  | .dateTime => .dateTime DateTime.epoch
  | .guid => .guid Guid.nil
  | .object | .string | .bytes | .time => .null

/-- The value that stands for nothing of a static type, or null. -/
def StaticType.zeroValue (type : StaticType) : Value :=
  match type.dataType? with
  | some target => target.zeroValue
  | none => .null

namespace Expr

/-- The static type of an operator applied to operands of given types. -/
def operatorType
    (operator : BinaryOperator)
    (left right : StaticType) : StaticType :=
  if operator.isComparison || operator.isLogical then .boolean
  else if operator = .arrayIndex then .object
  else if left = .int64 || right = .int64 then .int64
  else .decimal

/-- The type of an expression as it is known before evaluation. -/
def staticType : Expr → StaticType
  | .lambda _ _ => .expression
  | .parameter _ type => type
  | .constant _ type => type
  | .member _ reference => reference.type
  | .staticMember reference => reference.type
  | .call _ method _ => method.returnType
  | .staticCall method _ => method.returnType
  | .unary _ _ type => type
  | .binary operator left right =>
      operatorType operator left.staticType right.staticType
  | .binaryBy _ _ _ method => method.returnType
  | .conditional _ onTrue _ => onTrue.staticType
  | .construct constructor _ => constructor.type
  | .memberInit constructor _ _ => constructor.type
  | .listInit _ _ _ => .array
  | .newArray _ _ => .array
  | .defaultOf type => type

/-- A constant whose static type is that of its value. -/
def ofValue (value : Value) : Expr :=
  .constant value value.staticType

/-- The field of a record, or the key of a JSON object. -/
def field (owner : Expr) (name : String) (type : StaticType) : Expr :=
  .member owner (.field name type)

/-- Logical negation, or the complement of an integer. -/
def not (operand : Expr) : Expr :=
  .unary .not operand operand.staticType

/-- Arithmetic negation. -/
def negate (operand : Expr) : Expr :=
  .unary .negate operand operand.staticType

/-- Conversion to a static type. -/
def convert (operand : Expr) (type : StaticType) : Expr :=
  .unary .convert operand type

/-- An operand handed over as an expression. -/
def quote (operand : Expr) : Expr :=
  .unary .quote operand .expression

/-- The element of a list at an index. -/
def index (list position : Expr) : Expr :=
  .binary .arrayIndex list position

/-- The expression inside a quote, or the expression itself. -/
def unquote : Expr → Expr
  | .unary .quote operand _ => operand
  | expression => expression

end Expr
end RowBinding
