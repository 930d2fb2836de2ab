/-!
# Operators

The binary operators fall into arithmetic, comparisons, the two short-circuit
connectives, and indexing, which belongs to none of the other classes.
-/

namespace RowBinding

/-- An operator with two operands. -/
inductive BinaryOperator
  | add
  | subtract
  | multiply
  | divide
  | modulo
  | equal
  | notEqual
  | lessThan
  | lessThanOrEqual
  | greaterThan
  | greaterThanOrEqual
  | andAlso
  | orElse
  | arrayIndex
  deriving DecidableEq

namespace BinaryOperator

/-- Every binary operator. -/
def all : List BinaryOperator :=
  [.add, .subtract, .multiply, .divide, .modulo, .equal, .notEqual, .lessThan,
    .lessThanOrEqual, .greaterThan, .greaterThanOrEqual, .andAlso, .orElse,
    .arrayIndex]

/-- Whether the operator computes a number. -/
def isArithmetic : BinaryOperator → Bool
  | .add | .subtract | .multiply | .divide | .modulo => true
  | _ => false

/-- Whether the operator compares its operands. -/
def isComparison : BinaryOperator → Bool
  | .equal | .notEqual | .lessThan | .lessThanOrEqual | .greaterThan
  | .greaterThanOrEqual => true
  | _ => false

/-- Whether the operator decides from its first operand if it needs the second. -/
def isLogical : BinaryOperator → Bool
  | .andAlso | .orElse => true
  | _ => false

/-- The sign of the operator. -/
def sign : BinaryOperator → String
  | .add => "+"
  | .subtract => "-"
  | .multiply => "*"
  | .divide => "/"
  | .modulo => "%"
  | .equal => "=="
  | .notEqual => "!="
  | .lessThan => "<"
  | .lessThanOrEqual => "<="
  | .greaterThan => ">"
  | .greaterThanOrEqual => ">="
  | .andAlso => "&&"
  | .orElse => "||"
  | .arrayIndex => "[]"

/-- The name of the operator. -/
def name : BinaryOperator → String
  | .add => "Add"
  | .subtract => "Subtract"
  | .multiply => "Multiply"
  | .divide => "Divide"
  | .modulo => "Modulo"
  | .equal => "Equal"
  | .notEqual => "NotEqual"
  | .lessThan => "LessThan"
  | .lessThanOrEqual => "LessThanOrEqual"
  | .greaterThan => "GreaterThan"
  | .greaterThanOrEqual => "GreaterThanOrEqual"
  | .andAlso => "AndAlso"
  | .orElse => "OrElse"
  | .arrayIndex => "ArrayIndex"

/-- The operator with a given sign. -/
def ofSign? (sign : String) : Option BinaryOperator :=
  all.find? fun operator => operator.sign == sign

end BinaryOperator

/-- An operator with one operand. -/
inductive UnaryOperator
  | not
  | negate
  | convert
  | quote
  deriving DecidableEq

namespace UnaryOperator

/-- Every unary operator. -/
def all : List UnaryOperator :=
  [.not, .negate, .convert, .quote]

/-- The sign of the operator. -/
def sign : UnaryOperator → String
  | .not => "!"
  | .negate => "-"
  | .convert => "convert"
  | .quote => "quote"

/-- The name of the operator. -/
def name : UnaryOperator → String
  | .not => "Not"
  | .negate => "Negate"
  | .convert => "Convert"
  | .quote => "Quote"

/-- The operator with a given sign. -/
def ofSign? (sign : String) : Option UnaryOperator :=
  all.find? fun operator => operator.sign == sign

end UnaryOperator
end RowBinding
