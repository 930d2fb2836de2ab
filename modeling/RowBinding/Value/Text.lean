import RowBinding.Json.Printing
import RowBinding.Text.Inspected
import RowBinding.Value

/-!
# Text of values

A value has two texts. Its display text is what a conversion to text yields:
numbers in full, decimals without zeros at the end, and nothing for null. Its
inspected text names the variant and shows the contents with quotes and
escapes, and expressions are inspected in the same way.

A quoted expression is displayed by its inspected text, which is why the two
are defined together.
-/

namespace RowBinding

/-- Inspected text of a member. -/
def MemberRef.inspect (member : MemberRef) : String :=
  Text.inspectFields "MemberRef"
    [("name", Text.inspectString member.name), ("ty", member.type.name),
      ("is_static", Text.inspectBool member.isStatic)]

/-- Inspected text of a method. -/
def MethodRef.inspect (method : MethodRef) : String :=
  method.declaringType ++ "::" ++ method.name ++ " -> " ++ method.returnType.name

/-- Inspected text of a constructor. -/
def ConstructorRef.inspect (constructor : ConstructorRef) : String :=
  "new " ++ constructor.typeName

namespace Json

mutual

/-- Inspected text of a document. -/
def inspect : Json → String
  | .null => "Null"
  | .bool value => "Bool(" ++ Text.inspectBool value ++ ")"
  | .number value => "Number(" ++ value.toText ++ ")"
  | .string text => "String(" ++ Text.inspectString text ++ ")"
  | .array items => "Array " ++ Text.inspectList (inspectItems items)
  | .object members =>
      "Object \x7b" ++ ", ".intercalate (inspectMembers members) ++ "\x7d"

/-- Inspected texts of the items of an array. -/
def inspectItems : List Json → List String
  | [] => []
  | item :: rest => inspect item :: inspectItems rest

/-- Inspected texts of the members of an object. -/
def inspectMembers : List (String × Json) → List String
  | [] => []
  | (key, value) :: rest =>
      (Text.inspectString key ++ ": " ++ inspect value) :: inspectMembers rest

end

end Json

/-- Lower-case hexadecimal text of some bytes, two digits for each. -/
def hexText (bytes : List UInt8) : String :=
  String.ofList (bytes.flatMap fun byte => Text.padZeros 2 (Text.hexDigits byte.toNat))

mutual

/-- Display text of a value. -/
def Value.toText : Value → String
  | .null => ""
  | .boolean value => Text.inspectBool value
  | .integer value => Text.ofInt value.value
  | .float32 value => value.toText
  | .float64 value => value.toText
  | .decimal value => value.normalize.toText
  | .char value => String.singleton value
  | .string value => value
  | .dateTime value => value.toText
  | .guid value => value.toText
  | .bytes value => hexText value
  | .json document => document.toText
  | .list items => "[" ++ ", ".intercalate (Value.itemTexts items) ++ "]"
  | .record typeName fields =>
      typeName ++ " \x7b" ++ ",".intercalate (Value.fieldTexts fields) ++ " \x7d"
  | .quoted expression => "Quoted(" ++ expression.inspect ++ ")"
termination_by structural value => value

/-- Display texts of the items of a list. -/
def Value.itemTexts : List Value → List String
  | [] => []
  | item :: rest => item.toText :: Value.itemTexts rest
termination_by structural items => items

/-- Display texts of the fields of a record. -/
def Value.fieldTexts : List (String × Value) → List String
  | [] => []
  | (name, value) :: rest =>
      (" " ++ name ++ " = " ++ value.toText) :: Value.fieldTexts rest
termination_by structural fields => fields

/-- Inspected text of a value. -/
def Value.inspect : Value → String
  | .null => "Null"
  | .boolean value => "Boolean(" ++ Text.inspectBool value ++ ")"
  | .integer value => value.kind.name ++ "(" ++ Text.ofInt value.value ++ ")"
  | .float32 value => "Float32(" ++ value.text .inspected ++ ")"
  | .float64 value => "Float64(" ++ value.text .inspected ++ ")"
  | .decimal value => "Decimal(" ++ value.toText ++ ")"
  | .char value => "Char(" ++ Text.inspectChar value ++ ")"
  | .string value => "String(" ++ Text.inspectString value ++ ")"
  | .dateTime value => "DateTime(" ++ value.toMarkedText ++ ")"
  | .guid value => "Guid(" ++ value.toText ++ ")"
  | .bytes value =>
      "Bytes(" ++ Text.inspectList (value.map fun byte => Text.ofNat byte.toNat) ++ ")"
  | .json document => "Json(" ++ document.inspect ++ ")"
  | .list items => "List(" ++ Text.inspectList (Value.inspectItems items) ++ ")"
  | .record typeName fields =>
      "Record(" ++
        Text.inspectFields "Record"
          [("type_name", Text.inspectString typeName),
            ("fields", Text.inspectList (Value.inspectFields fields))] ++ ")"
  | .quoted expression => "Expr(Quoted(" ++ expression.inspect ++ "))"
termination_by structural value => value

/-- Inspected texts of the items of a list. -/
def Value.inspectItems : List Value → List String
  | [] => []
  | item :: rest => item.inspect :: Value.inspectItems rest
termination_by structural items => items

/-- Inspected texts of the fields of a record. -/
def Value.inspectFields : List (String × Value) → List String
  | [] => []
  | (name, value) :: rest =>
      ("(" ++ Text.inspectString name ++ ", " ++ value.inspect ++ ")") ::
        Value.inspectFields rest
termination_by structural fields => fields

/-- Inspected text of an expression. -/
def Expr.inspect : Expr → String
  | .lambda parameters body =>
      Text.inspectFields "Lambda"
        [("parameters", Text.inspectList (parameters.map Text.inspectString)),
          ("body", body.inspect)]
  | .parameter name type =>
      Text.inspectFields "Parameter"
        [("name", Text.inspectString name), ("ty", type.name)]
  | .constant value type =>
      Text.inspectFields "Constant" [("value", value.inspect), ("ty", type.name)]
  | .member owner member =>
      Text.inspectFields "Member"
        [("expression", "Some(" ++ owner.inspect ++ ")"), ("member", member.inspect)]
  | .staticMember member =>
      Text.inspectFields "Member" [("expression", "None"), ("member", member.inspect)]
  | .call receiver method arguments =>
      "MethodCall(" ++
        Text.inspectFields "MethodCall"
          [("object", "Some(" ++ receiver.inspect ++ ")"), ("method", method.inspect),
            ("arguments", Text.inspectList (Expr.inspectAll arguments))] ++ ")"
  | .staticCall method arguments =>
      "MethodCall(" ++
        Text.inspectFields "MethodCall"
          [("object", "None"), ("method", method.inspect),
            ("arguments", Text.inspectList (Expr.inspectAll arguments))] ++ ")"
  | .unary operator operand type =>
      Text.inspectFields "Unary"
        [("op", operator.name), ("operand", operand.inspect), ("ty", type.name)]
  | .binary operator left right =>
      Text.inspectFields "Binary"
        [("op", operator.name), ("left", left.inspect), ("right", right.inspect),
          ("method", "None")]
  | .binaryBy operator left right method =>
      Text.inspectFields "Binary"
        [("op", operator.name), ("left", left.inspect), ("right", right.inspect),
          ("method", "Some(" ++ method.inspect ++ ")")]
  | .conditional test onTrue onFalse =>
      Text.inspectFields "Conditional"
        [("test", test.inspect), ("if_true", onTrue.inspect),
          ("if_false", onFalse.inspect)]
  | .construct constructor arguments =>
      "New(" ++
        Text.inspectFields "NewExpr"
          [("constructor", constructor.inspect),
            ("arguments", Text.inspectList (Expr.inspectAll arguments))] ++ ")"
  | .memberInit constructor arguments bindings =>
      Text.inspectFields "MemberInit"
        [("new",
            Text.inspectFields "NewExpr"
              [("constructor", constructor.inspect),
                ("arguments", Text.inspectList (Expr.inspectAll arguments))]),
          ("bindings", Text.inspectList (Expr.inspectBindings bindings))]
  | .listInit constructor arguments items =>
      Text.inspectFields "ListInit"
        [("new",
            Text.inspectFields "NewExpr"
              [("constructor", constructor.inspect),
                ("arguments", Text.inspectList (Expr.inspectAll arguments))]),
          ("initializers", Text.inspectList (Expr.inspectAll items))]
  | .newArray elementType items =>
      Text.inspectFields "NewArray"
        [("element_type", elementType.name),
          ("expressions", Text.inspectList (Expr.inspectAll items))]
  | .defaultOf type => "Default(" ++ type.name ++ ")"
termination_by structural expression => expression

/-- Inspected texts of several expressions. -/
def Expr.inspectAll : List Expr → List String
  | [] => []
  | expression :: rest => expression.inspect :: Expr.inspectAll rest
termination_by structural expressions => expressions

/-- Inspected texts of members with the expressions bound to them. -/
def Expr.inspectBindings : List (MemberRef × Expr) → List String
  | [] => []
  | (member, expression) :: rest =>
      ("(" ++ member.inspect ++ ", " ++ expression.inspect ++ ")") ::
        Expr.inspectBindings rest
termination_by structural bindings => bindings

end

/-- Inspected text of a record. -/
def Record.inspect (record : Record) : String :=
  Text.inspectFields "Record"
    [("type_name", Text.inspectString record.typeName),
      ("fields", Text.inspectList (Value.inspectFields record.fields))]

end RowBinding
