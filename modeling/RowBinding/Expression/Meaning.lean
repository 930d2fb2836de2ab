import RowBinding.Expression.Evaluator

/-!
# The meaning of expressions

What an expression stands for, node by node and without a context. A member is
read from the meaning of its owner, an index is applied to the meaning of its
list, and a negation is taken of the meaning of its operand.

The evaluator arrives at the same values by another way, with accesses and
negations that wait until the root of their chain is known.
-/

namespace RowBinding

/-- The result of a call between the two questions to the interceptor. -/
def CallSite.result
    (environment : Environment)
    (site : CallSite)
    (receiver : Option Value)
    (arguments : List Value) : Except EvalError Value :=
  match environment.interceptor with
  | none => site.method.invoke environment.host receiver arguments
  | some interceptor => do
      let result ←
        match interceptor.before receiver site with
        | some value => pure value
        | none => site.method.invoke environment.host receiver arguments
      return interceptor.after receiver result site

mutual

/-- The value that an expression stands for. -/
def Expr.meaning (environment : Environment) : Expr → Except EvalError Value
  | .lambda _ body => body.meaning environment
  | .parameter _ _ => return .null
  | .defaultOf _ => return .null
  | .constant value _ => return value
  | .staticMember reference => reference.read environment.host reference.placeholder
  | .member owner reference =>
      match owner.ownerKind with
      | .input name => throw (.parameterDereference reference.name name)
      | _ => do reference.read environment.host (← owner.meaning environment)
  | .call receiver method arguments => do
      let values ← Expr.argumentMeanings environment arguments
      let owner ← receiver.meaning environment
      CallSite.result environment ⟨some receiver, method, arguments⟩ owner.asReceiver values
  | .staticCall method arguments => do
      let values ← Expr.argumentMeanings environment arguments
      CallSite.result environment ⟨none, method, arguments⟩ none values
  | .unary operator operand type =>
      match operator with
      | .not => do (← operand.meaning environment).logicalNot
      | .negate => do (← operand.meaning environment).negate
      | .convert => do (← operand.meaning environment).castTo type
      | .quote => return .quoted operand
  | .binary operator left right =>
      match operator with
      | .andAlso => do
          if ← (← left.meaning environment).truthy then
            return .boolean (← (← right.meaning environment).truthy)
          else
            return .boolean false
      | .orElse => do
          if ← (← left.meaning environment).truthy then
            return .boolean true
          else
            return .boolean (← (← right.meaning environment).truthy)
      | .arrayIndex => do
          let index ← (← right.meaning environment).intOperand
          (← left.meaning environment).indexed index
      | operator => do
          let first ← left.meaning environment
          let second ← right.meaning environment
          operator.apply left.staticType right.staticType first second
  | .binaryBy _ left right method => do
      let first ← left.meaning environment
      let second ← right.meaning environment
      method.invoke environment.host none [first, second]
  | .conditional test onTrue onFalse => do
      if ← (← test.meaning environment).truthy then
        onTrue.meaning environment
      else
        onFalse.meaning environment
  | .construct constructor arguments => do
      constructor.invoke environment.host (← Expr.meanings environment arguments)
  | .memberInit constructor arguments bindings => do
      let values ← Expr.meanings environment arguments
      let allocated ← constructor.invoke environment.host values
      Expr.bindingsMeaning environment bindings allocated
  | .listInit constructor arguments items => do
      let values ← Expr.meanings environment arguments
      match ← constructor.invoke environment.host values with
      | .list earlier => return .list (earlier ++ (← Expr.meanings environment items))
      | other => throw (.notAList other.typeName)
  | .newArray _ items => return .list (← Expr.meanings environment items)
termination_by structural expression => expression

/-- The values that several expressions stand for. -/
def Expr.meanings (environment : Environment) :
    List Expr → Except EvalError (List Value)
  | [] => return []
  | expression :: rest => do
      let value ← expression.meaning environment
      return value :: (← Expr.meanings environment rest)
termination_by structural expressions => expressions

/-- The values of arguments, where those typed as expressions are handed over. -/
def Expr.argumentMeanings (environment : Environment) :
    List Expr → Except EvalError (List Value)
  | [] => return []
  | argument :: rest => do
      let value ←
        if argument.staticType = .expression then pure (.quoted argument.unquote)
        else argument.meaning environment
      return value :: (← Expr.argumentMeanings environment rest)
termination_by structural arguments => arguments

/-- An object after the values of expressions are written to its members. -/
def Expr.bindingsMeaning (environment : Environment) :
    List (MemberRef × Expr) → Value → Except EvalError Value
  | [], object => return object
  | (reference, expression) :: rest, object => do
      let value ← expression.meaning environment
      Expr.bindingsMeaning environment rest
        (← reference.write environment.host object value)
termination_by structural bindings => bindings

end

end RowBinding
