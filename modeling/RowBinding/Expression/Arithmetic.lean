import RowBinding.Expression.Error
import RowBinding.Value.Equality

/-!
# Operations of the operators

What the operators do to evaluated operands. Arithmetic and order are those of
64-bit integers where one operand is statically of that type, and those of
decimals elsewhere; a null operand counts as zero in arithmetic and makes every
order comparison false.

Nothing wraps: a result out of range is an error, and so is a division by zero.
-/

namespace RowBinding

namespace Decimal

/-- The order of decimals as numbers. -/
def order (first second : Decimal) : Ordering :=
  if first.toRat < second.toRat then .lt
  else if first.toRat = second.toRat then .eq
  else .gt

end Decimal

namespace Value

/-- Whether a value passes as a condition; null does not. -/
def truthy (value : Value) : Except EvalError Bool :=
  if value.isNull then .ok false else EvalError.ofConversion value.toBool

/-- Logical negation, or the complement of an integer; null stays null. -/
def logicalNot (value : Value) : Except EvalError Value :=
  match value with
  | .null => .ok .null
  | .boolean truth => .ok (.boolean !truth)
  | .integer number => .ok (.integer number.complement)
  | other => .error (.invalidCast (.typeMismatch "Boolean" other.typeName))

/-- The negative of an integer, in a signed kind that is wide enough. -/
def negateInteger (number : Integer) : Except EvalError Value :=
  let signed (kind : IntegerKind) : Except EvalError Value :=
    match Integer.ofInt? kind (-number.value) with
    | some negative => .ok (.integer negative)
    | none => .error (.arithmeticOverflow "-")
  match number.kind with
  | .byte | .uint16 => signed .int32
  | .uint32 => signed .int64
  | .uint64 =>
      match Decimal.ofInt? number.value with
      | some magnitude => .ok (.decimal magnitude.neg)
      | none => .error (.arithmeticOverflow "-")
  | kind => signed kind

/-- Arithmetic negation; what is no number becomes its text behind a minus. -/
def negate (value : Value) : Except EvalError Value :=
  match value with
  | .null => .ok .null
  | .integer number => negateInteger number
  | .float32 float => .ok (.float32 float.neg)
  | .float64 float => .ok (.float64 float.neg)
  | .decimal number => .ok (.decimal number.neg)
  | other => .ok (.string ("-" ++ other.toText))

/-- The 64-bit integer that an operand stands for; null stands for zero. -/
def intOperand (value : Value) : Except EvalError Int :=
  if value.isNull then .ok 0
  else (EvalError.ofConversion (value.toInteger .int64)).map Integer.value

/-- The decimal that an operand stands for; null stands for zero. -/
def decimalOperand (value : Value) : Except EvalError Decimal :=
  if value.isNull then .ok Decimal.zero else EvalError.ofConversion value.toDecimal

/-- A 64-bit integer, or the overflow of an operator. -/
def int64Result (operator : BinaryOperator) (number : Int) : Except EvalError Value :=
  match Integer.ofInt? .int64 number with
  | some result => .ok (.integer result)
  | none => .error (.arithmeticOverflow operator.sign)

/--
Arithmetic of 64-bit integers.

A remainder is refused where the quotient that it belongs to overflows.
-/
def intArithmetic (operator : BinaryOperator) (first second : Int) :
    Except EvalError Value :=
  match operator with
  | .add => int64Result operator (first + second)
  | .subtract => int64Result operator (first - second)
  | .multiply => int64Result operator (first * second)
  | .divide =>
      if second = 0 then .error .divisionByZero
      else int64Result operator (first.tdiv second)
  | _ =>
      if second = 0 then .error .divisionByZero
      else do
        let _ ← int64Result operator (first.tdiv second)
        int64Result operator (first.tmod second)

/-- Arithmetic of decimals. -/
def decimalArithmetic (operator : BinaryOperator) (first second : Decimal) :
    Except EvalError Value :=
  let result (outcome : Option Decimal) : Except EvalError Value :=
    match outcome with
    | some number => .ok (.decimal number)
    | none => .error (.arithmeticOverflow operator.sign)
  match operator with
  | .add => result (first.add? second)
  | .subtract => result (first.sub? second)
  | .multiply => result (first.mul? second)
  | .divide =>
      if second.isZero then .error .divisionByZero else result (first.div? second)
  | _ =>
      if second.isZero then .error .divisionByZero else result (first.rem? second)

/-- Whether a value is a text. -/
def isString (value : Value) : Bool :=
  value.asString?.isSome

/-- The value of an arithmetic operator; adding to a text joins texts. -/
def arithmetic
    (operator : BinaryOperator)
    (left right : Value)
    (isWide : Bool) : Except EvalError Value :=
  if operator = .add && (left.isString || right.isString) then
    .ok (.string (left.toText ++ right.toText))
  else if isWide then do
    let first ← left.intOperand
    let second ← right.intOperand
    intArithmetic operator first second
  else do
    let first ← left.decimalOperand
    let second ← right.decimalOperand
    decimalArithmetic operator first second

/--
Equality under the comparison operators.

Two numbers that both have a decimal are equal when their decimals are.
-/
def valuesEqual (left right : Value) : Bool :=
  if left.isNumeric && right.isNumeric then
    match left.toDecimal, right.toDecimal with
    | .ok first, .ok second => first.equal second
    | _, _ => left.equal right
  else
    left.equal right

/-- The order of two values that are not null. -/
def ordering (left right : Value) (isWide isDate : Bool) :
    Except EvalError Ordering :=
  if isDate then do
    let first ← EvalError.ofConversion (left.toDateTime DateTime.defaultLayouts)
    let second ← EvalError.ofConversion (right.toDateTime DateTime.defaultLayouts)
    return first.order second
  else
    match left, right with
    | .string first, .string second => .ok (compare first second)
    | _, _ =>
        if isWide then do
          let first ← EvalError.ofConversion (left.toInteger .int64)
          let second ← EvalError.ofConversion (right.toInteger .int64)
          return compare first.value second.value
        else do
          let first ← EvalError.ofConversion left.toDecimal
          let second ← EvalError.ofConversion right.toDecimal
          return first.order second

/-- Whether an order satisfies an order comparison. -/
def satisfies (operator : BinaryOperator) (order : Ordering) : Bool :=
  match operator with
  | .lessThan => order == .lt
  | .lessThanOrEqual => order != .gt
  | .greaterThan => order == .gt
  | _ => order != .lt

/-- The truth of a comparison. -/
def compareBy
    (operator : BinaryOperator)
    (left right : Value)
    (isWide isDate : Bool) : Except EvalError Bool :=
  match operator with
  | .equal => .ok (valuesEqual left right)
  | .notEqual => .ok !(valuesEqual left right)
  | _ =>
      if left.isNull || right.isNull then .ok false
      else (ordering left right isWide isDate).map (satisfies operator)

/-- An element of a list of elements. -/
def elementAt {α : Type} (elements : List α) (index : Int) : Except EvalError α :=
  match elements[index.toNat]? with
  | some element =>
      if 0 ≤ index then .ok element
      else .error (.indexOutOfBounds index elements.length)
  | none => .error (.indexOutOfBounds index elements.length)

/-- The element of a list, of bytes, of a text or of a JSON array. -/
def indexed (value : Value) (index : Int) : Except EvalError Value :=
  match value with
  | .list items => elementAt items index
  | .bytes octets =>
      (elementAt octets index).map fun octet =>
        match Integer.ofInt? .byte octet.toNat with
        | some number => .integer number
        | none => .null
  | .string text => (elementAt text.toList index).map .char
  | .json (.array items) => (elementAt items index).map .json
  | other => .error (.notIndexable other.typeName)

end Value
end RowBinding
