import RowBinding.Expression.Evaluator

/-!
# Traces of calls

The calls that an evaluation makes, in the order in which it makes them, drawn
from the shape of the expression and the values of its operands. An operand that
is not taken makes no calls, and neither does one that is quoted.

Every call is told by a few events of its own. With an interceptor, it is asked
before the call and after it, and the method runs only where the interceptor has
no answer.
-/

namespace RowBinding

/-- Whether an event tells of a call. -/
def Event.isOfCall : Event → Bool
  | .read _ _ => false
  | .before _ _ | .invoke _ _ _ | .after _ _ _ => true

/-- A call with the values that it is made on. -/
inductive Call
  /-- The call of a site, with its result as the interceptor gets to see it. -/
  | ofSite
      (site : CallSite)
      (receiver : Option Value)
      (arguments : List Value)
      (answer : Value)
  /-- The call of the method that an operator has, which no interceptor sees. -/
  | ofOperator (method : MethodRef) (first second : Value)

/-- The events that tell of a call. -/
def Call.events (environment : Environment) : Call → List Event
  | .ofOperator method first second => [.invoke method none [first, second]]
  | .ofSite site receiver arguments answer =>
      match environment.interceptor with
      | none => [.invoke site.method receiver arguments]
      | some interceptor =>
          match interceptor.before receiver site with
          | none =>
              [.before site receiver,
                .invoke site.method receiver arguments,
                .after site receiver answer]
          | some _ => [.before site receiver, .after site receiver answer]

/-- The value that an argument is passed as. -/
def Expr.argumentValue (environment : Environment) (argument : Expr) :
    Except EvalError Value :=
  if argument.staticType = .expression then .ok (.quoted argument.unquote)
  else (argument.evaluate environment).result

/-- Whether an operand passes as a condition. -/
def Expr.passes (environment : Environment) (operand : Expr) : Except EvalError Bool := do
  (← (operand.evaluate environment).result).truthy

namespace CallSite

variable (environment : Environment) (site : CallSite)

/-- The value that a call is made on, if it is made on one. -/
def receiverValue : Except EvalError (Option Value) :=
  match site.receiver with
  | none => return none
  | some receiver => return (← (receiver.evaluate environment).result).asReceiver

/-- The answer of the interceptor to a call, or else the result of the method. -/
def answer (receiver : Option Value) (arguments : List Value) : Except EvalError Value :=
  match environment.interceptor.bind fun interceptor => interceptor.before receiver site with
  | some value => return value
  | none => site.method.invoke environment.host receiver arguments

/-- The call that is made at a site. -/
def call : Except EvalError Call := do
  let arguments ← site.arguments.mapM (Expr.argumentValue environment)
  let receiver ← site.receiverValue environment
  return .ofSite site receiver arguments (← site.answer environment receiver arguments)

end CallSite

mutual

/-- The calls of an evaluation, where a call comes after those that its operands make. -/
def Expr.calls (environment : Environment) : Expr → Except EvalError (List Call)
  | .lambda _ body => body.calls environment
  | .parameter _ _ | .defaultOf _ | .constant _ _ | .staticMember _ => return []
  | .member owner _ => owner.calls environment
  | .call receiver method arguments => do
      let ofArguments ← Expr.argumentCalls environment arguments
      let ofReceiver ← receiver.calls environment
      let own ← CallSite.call environment ⟨some receiver, method, arguments⟩
      return ofArguments ++ ofReceiver ++ [own]
  | .staticCall method arguments => do
      let ofArguments ← Expr.argumentCalls environment arguments
      let own ← CallSite.call environment ⟨none, method, arguments⟩
      return ofArguments ++ [own]
  | .unary operator operand _ =>
      match operator with
      | .not | .negate | .convert => operand.calls environment
      | .quote => return []
  | .binary operator left right =>
      match operator with
      | .andAlso => do
          let ofLeft ← left.calls environment
          if ← left.passes environment then
            return ofLeft ++ (← right.calls environment)
          else
            return ofLeft
      | .orElse => do
          let ofLeft ← left.calls environment
          if ← left.passes environment then
            return ofLeft
          else
            return ofLeft ++ (← right.calls environment)
      | .arrayIndex => do
          let ofRight ← right.calls environment
          return ofRight ++ (← left.calls environment)
      | _ => do
          let ofLeft ← left.calls environment
          return ofLeft ++ (← right.calls environment)
  | .binaryBy _ left right method => do
      let ofLeft ← left.calls environment
      let ofRight ← right.calls environment
      let first ← (left.evaluate environment).result
      let second ← (right.evaluate environment).result
      return ofLeft ++ ofRight ++ [.ofOperator method first second]
  | .conditional test onTrue onFalse => do
      let ofTest ← test.calls environment
      if ← test.passes environment then
        return ofTest ++ (← onTrue.calls environment)
      else
        return ofTest ++ (← onFalse.calls environment)
  | .construct _ arguments => Expr.allCalls environment arguments
  | .memberInit _ arguments bindings => do
      let ofArguments ← Expr.allCalls environment arguments
      return ofArguments ++ (← Expr.bindingCalls environment bindings)
  | .listInit _ arguments items => do
      let ofArguments ← Expr.allCalls environment arguments
      return ofArguments ++ (← Expr.allCalls environment items)
  | .newArray _ items => Expr.allCalls environment items
termination_by structural expression => expression

/-- The calls of several expressions, one after another. -/
def Expr.allCalls (environment : Environment) : List Expr → Except EvalError (List Call)
  | [] => return []
  | expression :: rest => do
      let ofFirst ← expression.calls environment
      return ofFirst ++ (← Expr.allCalls environment rest)
termination_by structural expressions => expressions

/-- The calls of the arguments that are evaluated. -/
def Expr.argumentCalls (environment : Environment) :
    List Expr → Except EvalError (List Call)
  | [] => return []
  | argument :: rest => do
      let ofFirst ←
        if argument.staticType = .expression then pure [] else argument.calls environment
      return ofFirst ++ (← Expr.argumentCalls environment rest)
termination_by structural arguments => arguments

/-- The calls of the expressions of bindings. -/
def Expr.bindingCalls (environment : Environment) :
    List (MemberRef × Expr) → Except EvalError (List Call)
  | [] => return []
  | (_, expression) :: rest => do
      let ofFirst ← expression.calls environment
      return ofFirst ++ (← Expr.bindingCalls environment rest)
termination_by structural bindings => bindings

end

end RowBinding
