import RowBinding.Proofs.Expression.CleanContexts
import RowBinding.Proofs.Outcome

/-!
# Results without events

What an evaluation comes to in a context does not depend on what was recorded
before. Apart from its events, a step is a function of the context: it gives a
value and the context that is left, or fails.

Operands in isolation come to what they evaluate to on their own, so the result
of a node that is put together from them is a function of their results.
-/

namespace RowBinding
namespace Eval

variable {α β δ : Type}

/-- A value with the context that is left, or a failure. -/
def forget (outcome : Except EvalError α × EvalState) : Except EvalError (α × Context) :=
  outcome.1.map fun value => (value, outcome.2.context)

/-- What a step comes to in a context. -/
def inContext (step : Eval α) (context : Context) : Except EvalError (α × Context) :=
  forget (step ⟨context, []⟩)

/-- A step to which it makes no difference what was recorded before. -/
def IgnoresEvents (step : Eval α) : Prop :=
  ∀ context events, forget (step ⟨context, events⟩) = step.inContext context

theorem forget_bind_apply
    {step : Eval α}
    {next : α → Eval β}
    (continues : ∀ value, (next value).IgnoresEvents)
    (state : EvalState) :
    forget ((step >>= next) state) = (do
      let (value, middle) ← forget (step state)
      (next value).inContext middle) := by
  rw [bind_apply]
  generalize step state = outcome
  obtain ⟨result, final⟩ := outcome
  cases result with
  | error error => rfl
  | ok value => exact continues value final.context final.events

theorem inContext_bind
    {step : Eval α}
    {next : α → Eval β}
    (continues : ∀ value, (next value).IgnoresEvents)
    (context : Context) :
    (step >>= next).inContext context = (do
      let (value, middle) ← step.inContext context
      (next value).inContext middle) :=
  forget_bind_apply continues ⟨context, []⟩

theorem inContext_liftM (result : Except EvalError α) (context : Context) :
    (liftM result : Eval α).inContext context = result.map fun value => (value, context) := by
  cases result <;> rfl

theorem inContext_liftM_bind
    (result : Except EvalError α)
    (next : α → Eval β)
    (context : Context) :
    (liftM result >>= next).inContext context = (do
      let value ← result
      (next value).inContext context) := by
  cases result <;> rfl

theorem forget_isolated_apply (step : Eval α) (state : EvalState) :
    forget (isolated step state) =
      (forget (step { state with context := {} })).map fun given => (given.1, state.context) := by
  change ((step { state with context := {} }).1.map fun value => (value, state.context)) = _
  rw [forget]
  cases (step { state with context := {} }).1 <;> rfl

/-! ## Steps without calls -/

/-- A step that is put together from results, uses of the context and reads of members. -/
inductive CallFree : {α : Type} → Eval α → Prop
  | pure {α : Type} (value : α) : CallFree (pure value)
  | liftM {α : Type} (result : Except EvalError α) : CallFree (liftM result)
  | context : CallFree Eval.context
  | modifyContext (change : Context → Context) : CallFree (Eval.modifyContext change)
  | recordRead (member : MemberRef) (owner : Value) : CallFree (record (.read member owner))
  | bind
      {α β : Type}
      {step : Eval α}
      {next : α → Eval β}
      (callFree : CallFree step)
      (continues : ∀ value, CallFree (next value)) : CallFree (step >>= next)

namespace CallFree

theorem applyIndices (indices : List Int) :
    ∀ value, (applyIndices indices value).CallFree := by
  induction indices with
  | nil => exact .pure
  | cons index rest inductionHypothesis =>
      exact fun value => .bind (.liftM (value.indexed index)) inductionHypothesis

theorem takePending (value : Value) : (takePending value).CallFree :=
  context.bind fun _ => (modifyContext _).bind fun _ => applyIndices _ value

theorem takeNegation (value : Value) : (takeNegation value).CallFree := by
  cases value with
  | boolean truth =>
      refine context.bind fun _ => ?_
      split
      · exact (modifyContext _).bind fun _ => .pure _
      · exact .pure _
  | _ => exact .pure _

section Environments

variable (environment : Environment)

theorem readMember (member : MemberRef) (owner : Value) :
    (readMember environment member owner).CallFree :=
  (recordRead member owner).bind fun _ => .liftM _

theorem replay (frames : List Frame) :
    ∀ value, (replay environment frames value).CallFree := by
  induction frames with
  | nil => exact .pure
  | cons frame rest inductionHypothesis =>
      exact fun value => (modifyContext _).bind fun _ =>
        (readMember environment frame.member value).bind fun read =>
          (applyIndices frame.indices read).bind inductionHypothesis

theorem resolveFrames (root : Value) : (resolveFrames environment root).CallFree :=
  context.bind fun context => replay environment context.frames root

theorem constant (literal : Value) : (constant environment literal).CallFree :=
  (resolveFrames environment literal).bind fun resolved =>
    (takePending resolved).bind takeNegation

end Environments
end CallFree

/-! ## Steps that ignore events -/

namespace IgnoresEvents

theorem bind
    {step : Eval α}
    {next : α → Eval β}
    (ignores : step.IgnoresEvents)
    (continues : ∀ value, (next value).IgnoresEvents) :
    IgnoresEvents (step >>= next) := by
  intro context events
  rw [forget_bind_apply continues, ignores, inContext_bind continues]

theorem pure (value : α) : IgnoresEvents (pure value) :=
  fun _ _ => rfl

theorem liftM (result : Except EvalError α) : IgnoresEvents (liftM result) := by
  cases result <;> exact fun _ _ => rfl

theorem record (event : Event) : (Eval.record event).IgnoresEvents :=
  fun _ _ => rfl

theorem context : Eval.context.IgnoresEvents :=
  fun _ _ => rfl

theorem modifyContext (change : Context → Context) : (modifyContext change).IgnoresEvents :=
  fun _ _ => rfl

theorem isolated {step : Eval α} (ignores : step.IgnoresEvents) :
    (isolated step).IgnoresEvents := by
  intro context events
  rw [inContext, forget_isolated_apply, forget_isolated_apply]
  exact congrArg (Except.map _) (ignores {} events)

theorem mapM
    {step : δ → Eval α}
    {items : List δ}
    (ignore : ∀ item ∈ items, (step item).IgnoresEvents) :
    (items.mapM step).IgnoresEvents := by
  induction items with
  | nil => exact .pure []
  | cons item rest inductionHypothesis =>
      rw [List.mapM_cons]
      have restIgnores :=
        inductionHypothesis fun other inside => ignore other (List.mem_cons_of_mem _ inside)
      exact (ignore item List.mem_cons_self).bind fun _ => restIgnores.bind fun _ => .pure _

theorem foldlM
    {step : α → δ → Eval α}
    {items : List δ}
    (ignore : ∀ item ∈ items, ∀ value, (step value item).IgnoresEvents) :
    ∀ value, (items.foldlM step value).IgnoresEvents := by
  induction items with
  | nil => exact .pure
  | cons item rest inductionHypothesis =>
      intro value
      rw [List.foldlM_cons]
      exact (ignore item List.mem_cons_self value).bind
        (inductionHypothesis fun other inside => ignore other (List.mem_cons_of_mem _ inside))

theorem of_callFree {step : Eval α} (callFree : step.CallFree) : step.IgnoresEvents := by
  induction callFree with
  | pure value => exact .pure value
  | liftM result => exact .liftM result
  | context => exact context
  | modifyContext change => exact modifyContext change
  | recordRead member owner => exact record _
  | bind _ _ ignores continues => exact ignores.bind continues

theorem applyIndices (indices : List Int) (value : Value) :
    (applyIndices indices value).IgnoresEvents :=
  .of_callFree (.applyIndices indices value)

theorem takePending (value : Value) : (takePending value).IgnoresEvents :=
  .of_callFree (.takePending value)

theorem takeNegation (value : Value) : (takeNegation value).IgnoresEvents :=
  .of_callFree (.takeNegation value)

section Environments

variable (environment : Environment)

theorem invokeMethod
    (method : MethodRef)
    (receiver : Option Value)
    (arguments : List Value) :
    (invokeMethod environment method receiver arguments).IgnoresEvents :=
  (record _).bind fun _ => .liftM _

theorem callThrough
    (site : CallSite)
    (receiver : Option Value)
    (arguments : List Value) :
    (callThrough environment site receiver arguments).IgnoresEvents := by
  have invoked := invokeMethod environment site.method receiver arguments
  unfold Eval.callThrough
  cases environment.interceptor with
  | none => exact invoked
  | some interceptor =>
      have asked (result : Value) :
          IgnoresEvents (do
            Eval.record (.after site receiver result)
            return interceptor.after receiver result site) :=
        (record _).bind fun _ => .pure _
      refine (record _).bind fun _ => ?_
      cases interceptor.before receiver site with
      | none => exact invoked.bind asked
      | some value => exact (pure value).bind asked

theorem replay (frames : List Frame) (value : Value) :
    (replay environment frames value).IgnoresEvents :=
  .of_callFree (.replay environment frames value)

theorem resolveFrames (root : Value) : (resolveFrames environment root).IgnoresEvents :=
  .of_callFree (.resolveFrames environment root)

theorem constant (literal : Value) : (constant environment literal).IgnoresEvents :=
  .of_callFree (.constant environment literal)

end Environments

theorem underNegation {step : Eval Value} (ignores : step.IgnoresEvents) :
    (underNegation step).IgnoresEvents := by
  refine context.bind fun _ => (modifyContext _).bind fun _ => ignores.bind fun value =>
    context.bind fun _ => ?_
  split
  · exact .pure _
  · exact (modifyContext _).bind fun _ => .liftM _

theorem underIndex {step : Eval Value} (index : Int) (ignores : step.IgnoresEvents) :
    (underIndex index step).IgnoresEvents := by
  refine context.bind fun _ => (modifyContext _).bind fun _ => ignores.bind fun value =>
    context.bind fun _ => ?_
  dsimp only
  split
  · exact (modifyContext _).bind fun _ => .liftM _
  · exact .pure _

end IgnoresEvents
end Eval

namespace Expr

open Eval

/-! ## Every expression -/

section Operands

variable {environment : Environment}

theorem visitAll_ignoresEvents
    {expressions : List Expr}
    (ignore : ∀ expression ∈ expressions, (expression.visit environment).IgnoresEvents) :
    (visitAll environment expressions).IgnoresEvents := by
  rw [visitAll_eq_mapM]
  exact .mapM fun expression inside => (ignore expression inside).isolated

theorem visitArguments_ignoresEvents
    {arguments : List Expr}
    (ignore : ∀ argument ∈ arguments, (argument.visit environment).IgnoresEvents) :
    (visitArguments environment arguments).IgnoresEvents := by
  rw [visitArguments_eq_mapM]
  refine .mapM fun argument inside => ?_
  unfold visitArgument
  split
  · exact .pure _
  · exact (ignore argument inside).isolated

theorem visitBindings_ignoresEvents
    {bindings : List (MemberRef × Expr)}
    (ignore : ∀ binding ∈ bindings, (binding.2.visit environment).IgnoresEvents)
    (object : Value) :
    (visitBindings environment bindings object).IgnoresEvents := by
  rw [visitBindings_eq_foldlM]
  exact .foldlM (fun binding inside _ => (ignore binding inside).isolated.bind fun _ => .liftM _)
    object

theorem visit_member_ignoresEvents
    {owner : Expr}
    (reference : MemberRef)
    (ignores : (owner.visit environment).IgnoresEvents) :
    ((Expr.member owner reference).visit environment).IgnoresEvents := by
  unfold visit
  cases owner.ownerKind with
  | input name => exact .liftM (.error _)
  | chained => exact (IgnoresEvents.modifyContext _).bind fun _ => ignores
  | computed =>
      exact (IgnoresEvents.modifyContext _).bind fun _ => ignores.isolated.bind fun root =>
        (IgnoresEvents.resolveFrames environment root).bind .takeNegation

theorem visit_unary_ignoresEvents
    {operand : Expr}
    (operator : UnaryOperator)
    (type : StaticType)
    (ignores : (operand.visit environment).IgnoresEvents) :
    ((Expr.unary operator operand type).visit environment).IgnoresEvents := by
  cases operator with
  | not => exact ignores.underNegation
  | negate | convert => exact ignores.isolated.bind fun _ => .liftM _
  | quote => exact .pure _

/-- The truth of an isolated operand. -/
def operandTruth (environment : Environment) (operand : Expr) : Eval Value := do
  let value ← isolated (operand.visit environment)
  return .boolean (← value.truthy)

theorem operandTruth_ignoresEvents
    {operand : Expr}
    (ignores : (operand.visit environment).IgnoresEvents) :
    (operandTruth environment operand).IgnoresEvents :=
  ignores.isolated.bind fun _ => (IgnoresEvents.liftM _).bind fun _ => .pure _

theorem visit_binary_ignoresEvents
    {left right : Expr}
    (operator : BinaryOperator)
    (leftIgnores : (left.visit environment).IgnoresEvents)
    (rightIgnores : (right.visit environment).IgnoresEvents) :
    ((Expr.binary operator left right).visit environment).IgnoresEvents := by
  have second := operandTruth_ignoresEvents rightIgnores
  cases operator with
  | arrayIndex =>
      exact rightIgnores.isolated.bind fun _ => (IgnoresEvents.liftM _).bind fun index =>
        leftIgnores.underIndex index
  | andAlso =>
      refine leftIgnores.isolated.bind fun _ => (IgnoresEvents.liftM _).bind fun passes => ?_
      cases passes with
      | true => exact second
      | false => exact .pure _
  | orElse =>
      refine leftIgnores.isolated.bind fun _ => (IgnoresEvents.liftM _).bind fun passes => ?_
      cases passes with
      | true => exact .pure _
      | false => exact second
  | _ =>
      exact leftIgnores.isolated.bind fun _ => rightIgnores.isolated.bind fun _ => .liftM _

theorem visit_conditional_ignoresEvents
    {test onTrue onFalse : Expr}
    (testIgnores : (test.visit environment).IgnoresEvents)
    (trueIgnores : (onTrue.visit environment).IgnoresEvents)
    (falseIgnores : (onFalse.visit environment).IgnoresEvents) :
    ((Expr.conditional test onTrue onFalse).visit environment).IgnoresEvents := by
  refine testIgnores.isolated.bind fun _ => (IgnoresEvents.liftM _).bind fun passes => ?_
  cases passes with
  | true => exact trueIgnores
  | false => exact falseIgnores

theorem visit_listInit_ignoresEvents
    {arguments items : List Expr}
    (constructor : ConstructorRef)
    (argumentsIgnore : ∀ argument ∈ arguments, (argument.visit environment).IgnoresEvents)
    (itemsIgnore : ∀ item ∈ items, (item.visit environment).IgnoresEvents) :
    ((Expr.listInit constructor arguments items).visit environment).IgnoresEvents := by
  refine (visitAll_ignoresEvents argumentsIgnore).bind fun _ =>
    (IgnoresEvents.liftM _).bind fun constructed => ?_
  cases constructed with
  | list earlier => exact (visitAll_ignoresEvents itemsIgnore).bind fun _ => .pure _
  | _ => exact .liftM (.error _)

end Operands

/-- What was recorded before makes no difference to any expression. -/
theorem ignoresEvents_visit (environment : Environment) (expression : Expr) :
    (expression.visit environment).IgnoresEvents := by
  induction expression using inductionOn with
  | lambda parameters body ignores => exact ignores
  | parameter name type | defaultOf type => exact .pure _
  | constant literal type => exact .constant environment literal
  | member owner reference ignores => exact visit_member_ignoresEvents reference ignores
  | staticMember reference =>
      exact (IgnoresEvents.modifyContext _).bind fun _ => .constant environment _
  | call receiver method arguments ignores ignore =>
      exact (visitArguments_ignoresEvents ignore).bind fun _ => ignores.isolated.bind fun _ =>
        (IgnoresEvents.callThrough environment _ _ _).bind .takeNegation
  | staticCall method arguments ignore =>
      exact (visitArguments_ignoresEvents ignore).bind fun _ =>
        (IgnoresEvents.callThrough environment _ _ _).bind .takeNegation
  | unary operator operand type ignores => exact visit_unary_ignoresEvents operator type ignores
  | binary operator left right leftIgnores rightIgnores =>
      exact visit_binary_ignoresEvents operator leftIgnores rightIgnores
  | binaryBy operator left right method leftIgnores rightIgnores =>
      exact leftIgnores.isolated.bind fun _ => rightIgnores.isolated.bind fun _ =>
        .invokeMethod environment _ _ _
  | conditional test onTrue onFalse testIgnores trueIgnores falseIgnores =>
      exact visit_conditional_ignoresEvents testIgnores trueIgnores falseIgnores
  | construct constructor arguments ignore =>
      exact (visitAll_ignoresEvents ignore).bind fun _ => .liftM _
  | memberInit constructor arguments bindings ignore bindingsIgnore =>
      exact (visitAll_ignoresEvents ignore).bind fun _ => (IgnoresEvents.liftM _).bind
        fun allocated => visitBindings_ignoresEvents bindingsIgnore allocated
  | listInit constructor arguments items ignore itemsIgnore =>
      exact visit_listInit_ignoresEvents constructor ignore itemsIgnore
  | newArray elementType items ignore =>
      exact (visitAll_ignoresEvents ignore).bind fun _ => .pure _

/-! ## Operands in isolation -/

section Results

variable (environment : Environment)

/-- An expression evaluates to what it comes to in the empty context. -/
theorem result_evaluate (expression : Expr) :
    (expression.evaluate environment).result =
      ((expression.visit environment).inContext {}).map Prod.fst := by
  change ((expression.visit environment) ⟨{}, []⟩).1 = (forget _).map _
  generalize (expression.visit environment) ⟨{}, []⟩ = outcome
  obtain ⟨result, final⟩ := outcome
  cases result <;> rfl

/-- An isolated operand yields what it evaluates to. -/
theorem result_evaluate_of_isolated
    {environment : Environment}
    {expression : Expr}
    {state final : EvalState}
    {value : Value}
    (runs : isolated (expression.visit environment) state = (.ok value, final)) :
    (expression.evaluate environment).result = .ok value := by
  have given := forget_isolated_apply (expression.visit environment) state
  rw [runs, ignoresEvents_visit environment expression {} state.events] at given
  obtain ⟨inner, isInner, same⟩ := Outcome.map_eq_ok_iff.mp given.symm
  have isValue : inner.1 = value := congrArg Prod.fst same
  rw [result_evaluate, isInner, ← isValue]
  rfl

/-- An isolated operand comes to what it evaluates to. -/
theorem inContext_operand_bind
    {next : Value → Eval Value}
    (expression : Expr)
    (continues : ∀ value, (next value).IgnoresEvents)
    (context : Context) :
    (isolated (expression.visit environment) >>= next).inContext context = (do
      let value ← (expression.evaluate environment).result
      (next value).inContext context) := by
  rw [inContext_bind continues, inContext, forget_isolated_apply, result_evaluate, inContext]
  generalize forget (expression.visit environment _) = outcome
  cases outcome <;> rfl

/-- An isolated operand, with what is made of its value by a result. -/
theorem result_operand_bind
    (expression : Expr)
    (finish : Value → Except EvalError Value) :
    ((isolated (expression.visit environment) >>= fun value =>
        (liftM (finish value) : Eval Value)).inContext {}).map Prod.fst =
      (do finish (← (expression.evaluate environment).result)) := by
  rw [inContext_operand_bind _ _ fun _ => .liftM _, Outcome.map_bind]
  refine congrArg _ (funext fun value => ?_)
  rw [inContext_liftM]
  cases finish value <;> rfl

theorem result_evaluate_negate (operand : Expr) (type : StaticType) :
    ((Expr.unary .negate operand type).evaluate environment).result =
      (do (← (operand.evaluate environment).result).negate) := by
  rw [result_evaluate]
  exact result_operand_bind environment operand Value.negate

theorem result_evaluate_convert (operand : Expr) (type : StaticType) :
    ((Expr.unary .convert operand type).evaluate environment).result =
      (do (← (operand.evaluate environment).result).castTo type) := by
  rw [result_evaluate]
  exact result_operand_bind environment operand (Value.castTo type)

/-- Arithmetic and comparisons are applied to the values of both operands. -/
theorem result_evaluate_binary
    {operator : BinaryOperator}
    (isPlain : operator.isComparison = true ∨ operator.isArithmetic = true)
    (left right : Expr) :
    ((Expr.binary operator left right).evaluate environment).result = (do
      let first ← (left.evaluate environment).result
      let second ← (right.evaluate environment).result
      operator.apply left.staticType right.staticType first second) := by
  have isVisit : (Expr.binary operator left right).visit environment = (do
      let first ← isolated (left.visit environment)
      let second ← isolated (right.visit environment)
      liftM (operator.apply left.staticType right.staticType first second)) := by
    cases operator with
    | andAlso | orElse | arrayIndex => exact isPlain.elim nofun nofun
    | _ => rfl
  have ignores := ignoresEvents_visit environment right
  rw [result_evaluate, isVisit,
    inContext_operand_bind _ _ fun _ => ignores.isolated.bind fun _ => .liftM _]
  cases (left.evaluate environment).result with
  | error error => rfl
  | ok first => exact result_operand_bind environment right _

/-- A condition that is a result decides between two steps. -/
theorem inContext_truthy_bind
    (expression : Expr)
    {onTrue onFalse : Eval Value}
    (trueIgnores : onTrue.IgnoresEvents)
    (falseIgnores : onFalse.IgnoresEvents)
    (context : Context) :
    (do
      let value ← isolated (expression.visit environment)
      if ← value.truthy then onTrue else onFalse : Eval Value).inContext context = (do
        let value ← (expression.evaluate environment).result
        if ← value.truthy then onTrue.inContext context else onFalse.inContext context) := by
  have chooses (passes : Bool) : (if passes = true then onTrue else onFalse).IgnoresEvents := by
    split
    · exact trueIgnores
    · exact falseIgnores
  rw [inContext_operand_bind _ _ fun _ => (IgnoresEvents.liftM _).bind chooses]
  refine congrArg _ (funext fun value => ?_)
  rw [inContext_liftM_bind]
  refine congrArg _ (funext fun passes => ?_)
  cases passes <;> rfl

theorem result_truthy_bind
    (expression : Expr)
    {onTrue onFalse : Eval Value}
    (trueIgnores : onTrue.IgnoresEvents)
    (falseIgnores : onFalse.IgnoresEvents) :
    ((do
      let value ← isolated (expression.visit environment)
      if ← value.truthy then onTrue else onFalse : Eval Value).inContext {}).map Prod.fst = (do
        if ← (← (expression.evaluate environment).result).truthy then
          (onTrue.inContext {}).map Prod.fst
        else
          (onFalse.inContext {}).map Prod.fst) := by
  rw [inContext_truthy_bind environment expression trueIgnores falseIgnores, Outcome.map_bind]
  refine congrArg _ (funext fun value => ?_)
  rw [Outcome.map_bind]
  refine congrArg _ (funext fun passes => ?_)
  cases passes <;> rfl

theorem result_evaluate_conditional (test onTrue onFalse : Expr) :
    ((Expr.conditional test onTrue onFalse).evaluate environment).result = (do
      if ← (← (test.evaluate environment).result).truthy then
        (onTrue.evaluate environment).result
      else
        (onFalse.evaluate environment).result) := by
  rw [result_evaluate, result_evaluate environment onTrue, result_evaluate environment onFalse]
  exact result_truthy_bind environment test (ignoresEvents_visit environment onTrue)
    (ignoresEvents_visit environment onFalse)

theorem result_operandTruth (expression : Expr) :
    ((operandTruth environment expression).inContext {}).map Prod.fst = (do
      return .boolean (← (← (expression.evaluate environment).result).truthy)) := by
  rw [operandTruth, inContext_operand_bind _ _ fun _ => (IgnoresEvents.liftM _).bind fun _ =>
    .pure _, Outcome.map_bind]
  refine congrArg _ (funext fun value => ?_)
  rw [inContext_liftM_bind, Outcome.map_bind]
  rfl

theorem result_evaluate_andAlso (left right : Expr) :
    ((Expr.binary .andAlso left right).evaluate environment).result = (do
      if ← (← (left.evaluate environment).result).truthy then
        return .boolean (← (← (right.evaluate environment).result).truthy)
      else
        return .boolean false) := by
  rw [result_evaluate, ← result_operandTruth]
  exact result_truthy_bind environment left
    (operandTruth_ignoresEvents (ignoresEvents_visit environment right)) (.pure _)

theorem result_evaluate_orElse (left right : Expr) :
    ((Expr.binary .orElse left right).evaluate environment).result = (do
      if ← (← (left.evaluate environment).result).truthy then
        return .boolean true
      else
        return .boolean (← (← (right.evaluate environment).result).truthy)) := by
  rw [result_evaluate, ← result_operandTruth]
  exact result_truthy_bind environment left (.pure _)
    (operandTruth_ignoresEvents (ignoresEvents_visit environment right))

end Results

end Expr
end RowBinding
