import RowBinding.Expression.Arithmetic
import RowBinding.Expression.Host
import RowBinding.Expression.Interceptor

/-!
# The evaluator

Evaluation walks an expression and carries a context. A member access leaves a
frame there and goes on to its owner, an array index leaves the index, and a
negation turns a flag round; the constant or the computed value at the root of
the chain then replays the frames, applies the indices and takes the negation.

The operands of most nodes are evaluated in isolation, with an empty context of
their own. Everything that a host or an interceptor is asked is recorded as an
event, also when the evaluation fails afterwards.
-/

namespace RowBinding

/-- A member access that waits for the value it is read from. -/
structure Frame where
  member : MemberRef
  /-- The indices of the value of the member, in the order they are applied. -/
  indices : List Int
  deriving DecidableEq

/-- What an evaluation carries, with the latest frames and indices first. -/
structure Context where
  frames : List Frame := []
  pending : List Int := []
  negated : Bool := false
  deriving DecidableEq

/-- Something that a host or an interceptor is asked. -/
inductive Event
  | read (member : MemberRef) (owner : Value)
  | before (site : CallSite) (receiver : Option Value)
  | invoke (method : MethodRef) (receiver : Option Value) (arguments : List Value)
  | after (site : CallSite) (receiver : Option Value) (result : Value)

/-- The context of an evaluation, and its events with the latest first. -/
structure EvalState where
  context : Context := {}
  events : List Event := []

/-- Steps of an evaluation. -/
abbrev Eval :=
  ExceptT EvalError (StateM EvalState)

/-- What an evaluation asks: a host, and an interceptor if there is one. -/
structure Environment where
  host : Host
  interceptor : Option Interceptor := none

namespace Eval

variable {α : Type}

/-- The context as it stands. -/
def context : Eval Context := do
  return (← get).context

/-- Change the context. -/
def modifyContext (change : Context → Context) : Eval Unit :=
  modify fun state => { state with context := change state.context }

/-- Record an event. -/
def record (event : Event) : Eval Unit :=
  modify fun state => { state with events := event :: state.events }

/-- Run a step with an empty context and restore the context afterwards. -/
def isolated (step : Eval α) : Eval α := fun state =>
  let (result, final) := step.run { state with context := {} }
  (result, { final with context := state.context })

/-- Invert a truth value if a negation waits for one. -/
def takeNegation (value : Value) : Eval Value := do
  match value with
  | .boolean truth =>
      if (← context).negated then
        modifyContext fun context => { context with negated := false }
        return .boolean !truth
      else
        return value
  | _ => return value

/-- Apply indices to a value one after another. -/
def applyIndices : List Int → Value → Eval Value
  | [], value => return value
  | index :: rest, value => do applyIndices rest (← value.indexed index)

/-- Apply the indices that are pending. -/
def takePending (value : Value) : Eval Value := do
  let pending := (← context).pending
  modifyContext fun context => { context with pending := [] }
  applyIndices pending value

/-- Leave a frame that takes the pending indices with it. -/
def pushFrame (member : MemberRef) : Eval Unit :=
  modifyContext fun context =>
    { context with
      frames := ⟨member, context.pending⟩ :: context.frames
      pending := [] }

/-- Read a member and record it. -/
def readMember (environment : Environment) (member : MemberRef) (owner : Value) :
    Eval Value := do
  record (.read member owner)
  member.read environment.host owner

/-- Call a method and record it. -/
def invokeMethod
    (environment : Environment)
    (method : MethodRef)
    (receiver : Option Value)
    (arguments : List Value) : Eval Value := do
  record (.invoke method receiver arguments)
  method.invoke environment.host receiver arguments

/-- Read the members of frames one after another, each with its indices. -/
def replay (environment : Environment) : List Frame → Value → Eval Value
  | [], value => return value
  | frame :: rest, value => do
      modifyContext fun context => { context with frames := rest }
      let read ← readMember environment frame.member value
      replay environment rest (← applyIndices frame.indices read)

/-- Replay the frames of the context against the root of their chain. -/
def resolveFrames (environment : Environment) (root : Value) : Eval Value := do
  replay environment (← context).frames root

/-- The value of a literal under the frames, the indices and the negation. -/
def constant (environment : Environment) (literal : Value) : Eval Value := do
  let resolved ← resolveFrames environment literal
  takeNegation (← takePending resolved)

/-- Ask the interceptor, call the method if it has no answer, and ask again. -/
def callThrough
    (environment : Environment)
    (site : CallSite)
    (receiver : Option Value)
    (arguments : List Value) : Eval Value :=
  match environment.interceptor with
  | none => invokeMethod environment site.method receiver arguments
  | some interceptor => do
      record (.before site receiver)
      let result ←
        match interceptor.before receiver site with
        | some value => pure value
        | none => invokeMethod environment site.method receiver arguments
      record (.after site receiver result)
      return interceptor.after receiver result site

end Eval

/-- What the owner of a member is, as far as reading the member goes. -/
inductive OwnerKind
  /-- The input of the predicate, which has no members to read. -/
  | input (parameter : String)
  /-- A link of a chain that is resolved at its root. -/
  | chained
  /-- A value that is computed first. -/
  | computed

/-- What an expression is as the owner of a member. -/
def Expr.ownerKind : Expr → OwnerKind
  | .parameter name _ => .input name
  | .member _ _ | .staticMember _ | .constant _ _ => .chained
  | _ => .computed

/-- The value that a static member is read from. -/
def MemberRef.placeholder (member : MemberRef) : Value :=
  if member.type = .dateTime then .dateTime DateTime.epoch else .null

/-- The receiver of a call; null is none. -/
def Value.asReceiver : Value → Option Value
  | .null => none
  | value => some value

/-- Convert an evaluated operand to a static type, if the type is a target. -/
def Value.castTo (type : StaticType) (value : Value) : Except EvalError Value :=
  match type.dataType? with
  | some target =>
      if value.isNull then .ok value
      else EvalError.ofConversion (value.convert DateTime.defaultLayouts target)
  | none => .ok value

/-- The value of an operator other than the connectives and indexing. -/
def BinaryOperator.apply
    (operator : BinaryOperator)
    (leftType rightType : StaticType)
    (left right : Value) : Except EvalError Value :=
  let isWide := leftType = .int64 || rightType = .int64
  if operator.isArithmetic then Value.arithmetic operator left right isWide
  else
    (Value.compareBy operator left right isWide (leftType = .dateTime)).map .boolean

mutual

/-- Evaluate an expression in the context at hand. -/
def Expr.visit (environment : Environment) : Expr → Eval Value
  | .lambda _ body => body.visit environment
  | .parameter _ _ => return .null
  | .defaultOf _ => return .null
  | .constant value _ => Eval.constant environment value
  | .staticMember reference => do
      Eval.pushFrame reference
      Eval.constant environment reference.placeholder
  | .member owner reference =>
      match owner.ownerKind with
      | .input name => throw (.parameterDereference reference.name name)
      | .chained => do
          Eval.pushFrame reference
          owner.visit environment
      | .computed => do
          Eval.pushFrame reference
          let root ← Eval.isolated (owner.visit environment)
          Eval.takeNegation (← Eval.resolveFrames environment root)
  | .call receiver method arguments => do
      let values ← Expr.visitArguments environment arguments
      let owner ← Eval.isolated (receiver.visit environment)
      Eval.takeNegation
        (← Eval.callThrough environment ⟨some receiver, method, arguments⟩
          owner.asReceiver values)
  | .staticCall method arguments => do
      let values ← Expr.visitArguments environment arguments
      Eval.takeNegation
        (← Eval.callThrough environment ⟨none, method, arguments⟩ none values)
  | .unary operator operand type =>
      match operator with
      | .not => do
          let outer := (← Eval.context).negated
          Eval.modifyContext fun context => { context with negated := !outer }
          let value ← operand.visit environment
          if (← Eval.context).negated = outer then
            return value
          else
            Eval.modifyContext fun context => { context with negated := outer }
            value.logicalNot
      | .negate => do
          let value ← Eval.isolated (operand.visit environment)
          value.negate
      | .convert => do
          let value ← Eval.isolated (operand.visit environment)
          value.castTo type
      | .quote => return .quoted operand
  | .binary operator left right =>
      match operator with
      | .andAlso => do
          let first ← Eval.isolated (left.visit environment)
          if ← first.truthy then
            let second ← Eval.isolated (right.visit environment)
            return .boolean (← second.truthy)
          else
            return .boolean false
      | .orElse => do
          let first ← Eval.isolated (left.visit environment)
          if ← first.truthy then
            return .boolean true
          else
            let second ← Eval.isolated (right.visit environment)
            return .boolean (← second.truthy)
      | .arrayIndex => do
          let position ← Eval.isolated (right.visit environment)
          let index ← position.intOperand
          let marker := (← Eval.context).pending.length
          Eval.modifyContext fun context =>
            { context with pending := index :: context.pending }
          let value ← left.visit environment
          let remaining := (← Eval.context).pending.length
          if marker < remaining then
            Eval.modifyContext fun context =>
              { context with pending := context.pending.drop (remaining - marker) }
            value.indexed index
          else
            return value
      | operator => do
          let first ← Eval.isolated (left.visit environment)
          let second ← Eval.isolated (right.visit environment)
          operator.apply left.staticType right.staticType first second
  | .binaryBy _ left right method => do
      let first ← Eval.isolated (left.visit environment)
      let second ← Eval.isolated (right.visit environment)
      Eval.invokeMethod environment method none [first, second]
  | .conditional test onTrue onFalse => do
      let condition ← Eval.isolated (test.visit environment)
      if ← condition.truthy then
        onTrue.visit environment
      else
        onFalse.visit environment
  | .construct constructor arguments => do
      let values ← Expr.visitAll environment arguments
      constructor.invoke environment.host values
  | .memberInit constructor arguments bindings => do
      let values ← Expr.visitAll environment arguments
      let allocated ← constructor.invoke environment.host values
      Expr.visitBindings environment bindings allocated
  | .listInit constructor arguments items => do
      let values ← Expr.visitAll environment arguments
      match ← constructor.invoke environment.host values with
      | .list earlier => return .list (earlier ++ (← Expr.visitAll environment items))
      | other => throw (.notAList other.typeName)
  | .newArray _ items => return .list (← Expr.visitAll environment items)
termination_by structural expression => expression

/-- Evaluate several expressions in order, each in isolation. -/
def Expr.visitAll (environment : Environment) : List Expr → Eval (List Value)
  | [] => return []
  | expression :: rest => do
      let value ← Eval.isolated (expression.visit environment)
      return value :: (← Expr.visitAll environment rest)
termination_by structural expressions => expressions

/-- Evaluate arguments in order; those typed as expressions are handed over. -/
def Expr.visitArguments (environment : Environment) : List Expr → Eval (List Value)
  | [] => return []
  | argument :: rest => do
      let value ←
        if argument.staticType = .expression then pure (.quoted argument.unquote)
        else Eval.isolated (argument.visit environment)
      return value :: (← Expr.visitArguments environment rest)
termination_by structural arguments => arguments

/-- Evaluate expressions in order and write each to its member of an object. -/
def Expr.visitBindings (environment : Environment) :
    List (MemberRef × Expr) → Value → Eval Value
  | [], object => return object
  | (reference, expression) :: rest, object => do
      let value ← Eval.isolated (expression.visit environment)
      let written ← reference.write environment.host object value
      Expr.visitBindings environment rest written
termination_by structural bindings => bindings

end

/-- The outcome of an evaluation: its result, the final context and the events. -/
structure Evaluation where
  result : Except EvalError Value
  context : Context
  /-- The events in the order in which they happened. -/
  events : List Event

/-- Evaluate an expression from an empty context. -/
def Expr.evaluate (environment : Environment) (expression : Expr) : Evaluation :=
  let (result, final) := (expression.visit environment).run {}
  ⟨result, final.context, final.events.reverse⟩

end RowBinding
