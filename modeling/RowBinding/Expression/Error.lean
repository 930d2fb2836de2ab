import RowBinding.Conversion

/-!
# Evaluation errors

What can go wrong when an expression is evaluated. A failed conversion is kept
as the cause of an invalid cast.
-/

namespace RowBinding

/-- Why an expression has no value. -/
inductive EvalError
  /-- A member is read off the input of the predicate. -/
  | parameterDereference (member parameter : String)
  | divisionByZero
  | arithmeticOverflow (operator : String)
  | invalidCast (cause : ValueError)
  | indexOutOfBounds (index : Int) (length : Nat)
  | notIndexable (found : String)
  | invocation (target reason : String)
  | missingSetter (member : String)
  | notAList (found : String)
  deriving DecidableEq

namespace EvalError

/-- The name of a cause of failure. -/
def name : EvalError → String
  | .parameterDereference _ _ => "InvalidParameterDereference"
  | .divisionByZero => "DivisionByZero"
  | .arithmeticOverflow _ => "ArithmeticOverflow"
  | .invalidCast _ => "InvalidCast"
  | .indexOutOfBounds _ _ => "IndexOutOfBounds"
  | .notIndexable _ => "NotIndexable"
  | .invocation _ _ => "Invocation"
  | .missingSetter _ => "MissingSetter"
  | .notAList _ => "NotAList"

/-- The failed conversion behind an evaluation error, if there is one. -/
def cause? : EvalError → Option ValueError
  | .invalidCast cause => some cause
  | _ => none

/-- The wording of an evaluation error. -/
def message : EvalError → String
  | .parameterDereference member parameter =>
      "Cannot evaluate member '" ++ member ++ "' of parameter '" ++ parameter ++
        "' outside of query translation"
  | .divisionByZero => "Division by zero"
  | .arithmeticOverflow operator => "Arithmetic overflow in '" ++ operator ++ "'"
  | .invalidCast cause => "Invalid cast: " ++ cause.message
  | .indexOutOfBounds index length =>
      "Index " ++ Text.ofInt index ++ " is out of bounds for length " ++
        Text.ofNat length
  | .notIndexable found => found ++ " value cannot be indexed"
  | .invocation target reason =>
      "Invocation of '" ++ target ++ "' failed: " ++ reason
  | .missingSetter member => "Member '" ++ member ++ "' cannot be assigned"
  | .notAList found =>
      "List initializer needs a list, constructor produced " ++ found

/-- A conversion whose failure is an invalid cast. -/
def ofConversion {α : Type} (result : Except ValueError α) :
    Except EvalError α :=
  result.mapError .invalidCast

end EvalError
end RowBinding
