import RowBinding.Proofs.Expression.CleanContexts
import RowBinding.Proofs.Expression.Negation

/-!
# Visits

An evaluation visits an expression from a state, and the visit makes others, of
the parts of the expression. A part in isolation is visited with an empty
context. The owner of a link in a chain is visited with a frame more, the list
of an index with the index before those that wait, the operand of a negation
with the flag turned round, and a body or a branch with the context as it is.

These are all the visits there are: whatever else is done with the parts of an
expression, the outcome of its visit is the same.
-/

namespace RowBinding

/-- The evaluation of an expression from a state. -/
structure Visit where
  expression : Expr
  state : EvalState

/-! ## Steps that agree where they are taken -/

namespace Eval

variable {α β δ : Type} {state : EvalState}

theorem bind_apply_congr
    {step other : Eval α}
    {next otherNext : α → Eval β}
    (same : step state = other state)
    (continues : ∀ value middle, other state = (.ok value, middle) →
      next value middle = otherNext value middle) :
    (step >>= next) state = (other >>= otherNext) state := by
  rw [bind_apply, bind_apply, same]
  cases runs : other state with
  | mk result middle =>
      cases result with
      | error error => rfl
      | ok value => exact continues value middle runs

theorem liftM_bind_apply_congr
    {result : Except EvalError α}
    {next otherNext : α → Eval β}
    (continues : ∀ value, result = .ok value → next value state = otherNext value state) :
    ((liftM result : Eval α) >>= next) state = ((liftM result : Eval α) >>= otherNext) state := by
  cases result with
  | error error => rfl
  | ok value => exact continues value rfl

theorem isolated_apply_congr
    {step other : Eval α}
    (same : step { state with context := {} } = other { state with context := {} }) :
    isolated step state = isolated other state := by
  unfold isolated
  rw [ExceptT.run, ExceptT.run, same]

theorem mapM_apply_congr
    {step other : δ → Eval α}
    {items : List δ} :
    ∀ {state},
      (∀ earlier item later values before, items = earlier ++ item :: later →
        earlier.mapM other state = (.ok values, before) → step item before = other item before) →
      items.mapM step state = items.mapM other state := by
  induction items with
  | nil => exact fun _ => rfl
  | cons first rest inductionHypothesis =>
      intro state same
      rw [List.mapM_cons, List.mapM_cons]
      refine bind_apply_congr (same [] first rest [] state rfl rfl) fun value middle isValue => ?_
      refine bind_apply_congr (inductionHypothesis ?_) fun _ _ _ => rfl
      intro earlier item later values before split reached
      refine same (first :: earlier) item later (value :: values) before
        (congrArg (first :: ·) split) ?_
      rw [List.mapM_cons, bind_apply_of_ok isValue, bind_apply_of_ok reached]
      rfl

theorem foldlM_apply_congr
    {step other : α → δ → Eval α}
    {items : List δ} :
    ∀ {start state},
      (∀ earlier item later value before, items = earlier ++ item :: later →
        earlier.foldlM other start state = (.ok value, before) →
          step value item before = other value item before) →
      items.foldlM step start state = items.foldlM other start state := by
  induction items with
  | nil => exact fun _ => rfl
  | cons first rest inductionHypothesis =>
      intro start state same
      rw [List.foldlM_cons, List.foldlM_cons]
      refine bind_apply_congr (same [] first rest start state rfl rfl) fun next middle isNext => ?_
      refine inductionHypothesis fun earlier item later value before split reached => ?_
      refine same (first :: earlier) item later value before (congrArg (first :: ·) split) ?_
      rw [List.foldlM_cons, bind_apply_of_ok isNext, reached]

theorem underNegation_apply_congr
    {step other : Eval Value}
    (same : step (state.withNegated !state.context.negated) =
      other (state.withNegated !state.context.negated)) :
    underNegation step state = underNegation other state := by
  rw [underNegation_apply, underNegation_apply, same]

theorem underIndex_apply_congr
    {step other : Eval Value}
    {index : Int}
    (same : step (state.withPending (index :: state.context.pending)) =
      other (state.withPending (index :: state.context.pending))) :
    underIndex index step state = underIndex index other state := by
  rw [underIndex_apply, underIndex_apply, same]

end Eval

open Eval

/-! ## The visits that a visit makes -/

namespace Visit

/-- The context that a visit begins with. -/
def context (visit : Visit) : Context :=
  visit.state.context

/-- A visit makes another one, of a part of its expression. -/
inductive Makes (environment : Environment) : Visit → Visit → Prop
  /-- A part in isolation. -/
  | isolated
      {parent operand : Expr}
      {state before : EvalState}
      (isolates : Expr.Isolates environment parent state operand before) :
      Makes environment ⟨parent, state⟩ ⟨operand, { before with context := {} }⟩
  /-- The owner of a link in a chain. -/
  | owner
      {owner : Expr}
      (chained : owner.ownerKind = .chained)
      (reference : MemberRef)
      (state : EvalState) :
      Makes environment ⟨.member owner reference, state⟩
        ⟨owner, { state with context := pushed state.context reference }⟩
  /-- The list of an index, after its position. -/
  | list
      {position : Expr}
      {state before : EvalState}
      {place : Value}
      {index : Int}
      (list : Expr)
      (reached : Eval.isolated (position.visit environment) state = (.ok place, before))
      (isIndex : place.intOperand = .ok index) :
      Makes environment ⟨.binary .arrayIndex list position, state⟩
        ⟨list, before.withPending (index :: before.context.pending)⟩
  /-- The operand of a negation. -/
  | negated (operand : Expr) (type : StaticType) (state : EvalState) :
      Makes environment ⟨.unary .not operand type, state⟩
        ⟨operand, state.withNegated !state.context.negated⟩
  | body (parameters : List String) (body : Expr) (state : EvalState) :
      Makes environment ⟨.lambda parameters body, state⟩ ⟨body, state⟩
  /-- The branch of a condition, after its test. -/
  | branch
      {test : Expr}
      {state before : EvalState}
      {condition : Value}
      {truth : Bool}
      (onTrue onFalse : Expr)
      (reached : Eval.isolated (test.visit environment) state = (.ok condition, before))
      (isTruth : condition.truthy = .ok truth) :
      Makes environment ⟨.conditional test onTrue onFalse, state⟩
        ⟨if truth then onTrue else onFalse, before⟩

end Visit

/-! ## One visit, with any evaluation of the parts -/

namespace Expr

section Evaluation

variable (environment : Environment) (recurse : Expr → Eval Value)

/-- Evaluate an argument by a function, unless it is handed over. -/
def argumentBy (argument : Expr) : Eval Value :=
  if argument.staticType = .expression then pure (.quoted argument.unquote)
  else isolated (recurse argument)

/-- Evaluate the expression of a binding by a function, and write its value. -/
def bindingBy (object : Value) (binding : MemberRef × Expr) : Eval Value := do
  let value ← isolated (recurse binding.2)
  binding.1.write environment.host object value

/-- Evaluate two operands by a function, the second one only if it is needed. -/
def operandsBy
    (operator : BinaryOperator)
    (left right : Expr) : Eval Value := do
  let first ← isolated (recurse left)
  match operator with
  | .andAlso =>
      if ← first.truthy then
        let second ← isolated (recurse right)
        return .boolean (← second.truthy)
      else
        return .boolean false
  | .orElse =>
      if ← first.truthy then
        return .boolean true
      else
        let second ← isolated (recurse right)
        return .boolean (← second.truthy)
  | operator =>
      let second ← isolated (recurse right)
      operator.apply left.staticType right.staticType first second

/-- Evaluate an expression, and its parts by a function. -/
def visitBy : Expr → Eval Value
  | .lambda _ body => recurse body
  | .parameter _ _ => return .null
  | .defaultOf _ => return .null
  | .constant value _ => Eval.constant environment value
  | .staticMember reference => do
      pushFrame reference
      Eval.constant environment reference.placeholder
  | .member owner reference =>
      match owner.ownerKind with
      | .input name => throw (.parameterDereference reference.name name)
      | .chained => do
          pushFrame reference
          recurse owner
      | .computed => do
          pushFrame reference
          let root ← isolated (recurse owner)
          takeNegation (← resolveFrames environment root)
  | .call receiver method arguments => do
      let values ← arguments.mapM (argumentBy recurse)
      let owner ← isolated (recurse receiver)
      takeNegation
        (← callThrough environment ⟨some receiver, method, arguments⟩ owner.asReceiver values)
  | .staticCall method arguments => do
      let values ← arguments.mapM (argumentBy recurse)
      takeNegation (← callThrough environment ⟨none, method, arguments⟩ none values)
  | .unary operator operand type =>
      match operator with
      | .not => underNegation (recurse operand)
      | .negate => do
          let value ← isolated (recurse operand)
          value.negate
      | .convert => do
          let value ← isolated (recurse operand)
          value.castTo type
      | .quote => return .quoted operand
  | .binary operator left right =>
      match operator with
      | .arrayIndex => do
          let position ← isolated (recurse right)
          let index ← position.intOperand
          underIndex index (recurse left)
      | operator => operandsBy recurse operator left right
  | .binaryBy _ left right method => do
      let first ← isolated (recurse left)
      let second ← isolated (recurse right)
      invokeMethod environment method none [first, second]
  | .conditional test onTrue onFalse => do
      let condition ← isolated (recurse test)
      if ← condition.truthy then recurse onTrue else recurse onFalse
  | .construct constructor arguments => do
      let values ← arguments.mapM fun argument => isolated (recurse argument)
      constructor.invoke environment.host values
  | .memberInit constructor arguments bindings => do
      let values ← arguments.mapM fun argument => isolated (recurse argument)
      let allocated ← constructor.invoke environment.host values
      bindings.foldlM (bindingBy environment recurse) allocated
  | .listInit constructor arguments items => do
      let values ← arguments.mapM fun argument => isolated (recurse argument)
      match ← constructor.invoke environment.host values with
      | .list earlier =>
          return .list (earlier ++ (← items.mapM fun item => isolated (recurse item)))
      | other => throw (.notAList other.typeName)
  | .newArray _ items => return .list (← items.mapM fun item => isolated (recurse item))

end Evaluation

/-- The evaluator evaluates the parts of an expression as it does the expression. -/
theorem visitBy_visit (environment : Environment) (expression : Expr) :
    visitBy environment (fun part => part.visit environment) expression =
      expression.visit environment := by
  cases expression with
  | call receiver method arguments =>
      rw [visitBy, visit, visitArguments_eq_mapM]
      rfl
  | staticCall method arguments =>
      rw [visitBy, visit, visitArguments_eq_mapM]
      rfl
  | binary operator left right => cases operator <;> rfl
  | construct constructor arguments => rw [visitBy, visit, visitAll_eq_mapM]
  | memberInit constructor arguments bindings =>
      rw [visitBy, visit, visitAll_eq_mapM, funext (visitBindings_eq_foldlM environment bindings)]
      rfl
  | listInit constructor arguments items =>
      refine congrArg₂ (· >>= ·) (visitAll_eq_mapM environment arguments).symm ?_
      refine funext fun values => congrArg _ (funext fun constructed => ?_)
      cases constructed with
      | list elements => exact congrArg (· >>= _) (visitAll_eq_mapM environment items).symm
      | _ => rfl
  | newArray elementType items => rw [visitBy, visit, visitAll_eq_mapM]
  | _ => rfl

/-! ## No other visits -/

section Agreement

variable
  {environment : Environment}
  {recurse : Expr → Eval Value}
  {expression : Expr}
  {state : EvalState}

/-- A function evaluates the parts of an expression as they are visited. -/
def AgreesOn
    (environment : Environment)
    (recurse : Expr → Eval Value)
    (visit : Visit) : Prop :=
  ∀ next, visit.Makes environment next →
    recurse next.expression next.state = next.expression.visit environment next.state

theorem AgreesOn.isolated
    {operand : Expr}
    {before : EvalState}
    (agrees : AgreesOn environment recurse ⟨expression, state⟩)
    (isolates : Isolates environment expression state operand before) :
    Eval.isolated (recurse operand) before = Eval.isolated (operand.visit environment) before :=
  isolated_apply_congr (agrees _ (.isolated isolates))

theorem mapM_isolated_congr
    {operands : List Expr}
    (same : ∀ earlier operand later values before, operands = earlier ++ operand :: later →
      visitAll environment earlier state = (.ok values, before) →
        isolated (recurse operand) before = isolated (operand.visit environment) before) :
    (operands.mapM fun operand => isolated (recurse operand)) state =
      (operands.mapM fun operand => isolated (operand.visit environment)) state := by
  refine mapM_apply_congr fun earlier operand later values before split reached => ?_
  rw [← visitAll_eq_mapM] at reached
  exact same earlier operand later values before split reached

theorem mapM_argumentBy_congr
    {arguments : List Expr}
    (same : ∀ earlier operand later values before, arguments = earlier ++ operand :: later →
      visitArguments environment earlier state = (.ok values, before) →
        operand.staticType ≠ .expression →
          isolated (recurse operand) before = isolated (operand.visit environment) before) :
    arguments.mapM (argumentBy recurse) state =
      arguments.mapM (argumentBy fun part => part.visit environment) state := by
  refine mapM_apply_congr fun earlier operand later values before split reached => ?_
  have visited : visitArguments environment earlier state = (.ok values, before) := by
    rw [visitArguments_eq_mapM]
    exact reached
  unfold argumentBy
  by_cases handedOver : operand.staticType = .expression
  · rw [if_pos handedOver, if_pos handedOver]
  · rw [if_neg handedOver, if_neg handedOver]
    exact same earlier operand later values before split visited handedOver

theorem operandsBy_congr
    {operator : BinaryOperator}
    {left right : Expr}
    (noIndex : operator ≠ .arrayIndex)
    (agrees : AgreesOn environment recurse ⟨.binary operator left right, state⟩) :
    operandsBy recurse operator left right state =
      operandsBy (fun part => part.visit environment) operator left right state := by
  refine bind_apply_congr (agrees.isolated (.left noIndex left right state))
    fun first middle reached => ?_
  have second (goesOn : operator.GoesOn first) :
      isolated (recurse right) middle = isolated (right.visit environment) middle :=
    agrees.isolated (.right right reached goesOn)
  cases operator with
  | arrayIndex => exact absurd rfl noIndex
  | andAlso =>
      refine liftM_bind_apply_congr fun passes isPassed => ?_
      cases passes with
      | false => rfl
      | true => exact bind_apply_congr (second isPassed) fun _ _ _ => rfl
  | orElse =>
      refine liftM_bind_apply_congr fun passes isPassed => ?_
      cases passes with
      | false => exact bind_apply_congr (second isPassed) fun _ _ _ => rfl
      | true => rfl
  | _ => exact bind_apply_congr (second trivial) fun _ _ _ => rfl

/--
The outcome of a visit depends on no other evaluation of parts than those that it makes.
-/
theorem visitBy_eq_visit (agrees : AgreesOn environment recurse ⟨expression, state⟩) :
    visitBy environment recurse expression state = expression.visit environment state := by
  rw [← visitBy_visit]
  cases expression with
  | lambda parameters body => exact agrees _ (.body parameters body state)
  | parameter name type | defaultOf type | constant value type | staticMember reference => rfl
  | member owner reference =>
      rw [visitBy, visitBy]
      cases kind : owner.ownerKind with
      | input name => rfl
      | chained => exact agrees _ (.owner kind reference state)
      | computed =>
          refine bind_apply_congr rfl fun _ pushedState isPushed => ?_
          cases isPushed
          exact bind_apply_congr (agrees.isolated (.owner kind reference state))
            fun _ _ _ => rfl
  | call receiver method arguments =>
      refine bind_apply_congr (mapM_argumentBy_congr ?_) fun values middle reached => ?_
      · rintro earlier operand later values before rfl reached evaluated
        exact agrees.isolated (.argument receiver method reached evaluated)
      · have visited : visitArguments environment arguments state = (.ok values, middle) := by
          rw [visitArguments_eq_mapM]
          exact reached
        exact bind_apply_congr (agrees.isolated (.receiver receiver method visited))
          fun _ _ _ => rfl
  | staticCall method arguments =>
      refine bind_apply_congr (mapM_argumentBy_congr ?_) fun _ _ _ => rfl
      rintro earlier operand later values before rfl reached evaluated
      exact agrees.isolated (.staticArgument method reached evaluated)
  | unary operator operand type =>
      cases operator with
      | not => exact underNegation_apply_congr (agrees _ (.negated operand type state))
      | negate =>
          exact bind_apply_congr (agrees.isolated (.operand (.inl rfl) operand type state))
            fun _ _ _ => rfl
      | convert =>
          exact bind_apply_congr (agrees.isolated (.operand (.inr rfl) operand type state))
            fun _ _ _ => rfl
      | quote => rfl
  | binary operator left right =>
      by_cases noIndex : operator = .arrayIndex
      · subst noIndex
        refine bind_apply_congr (agrees.isolated (.position left right state))
          fun place before reached => ?_
        refine liftM_bind_apply_congr fun index isIndex => ?_
        exact underIndex_apply_congr (agrees _ (.list left reached isIndex))
      · have same := operandsBy_congr noIndex agrees
        cases operator <;> first | exact absurd rfl noIndex | exact same
  | binaryBy operator left right method =>
      refine bind_apply_congr (agrees.isolated (.leftBy operator left right method state))
        fun first before reached => ?_
      exact bind_apply_congr (agrees.isolated (.rightBy operator right method reached))
        fun _ _ _ => rfl
  | conditional test onTrue onFalse =>
      refine bind_apply_congr (agrees.isolated (.test test onTrue onFalse state))
        fun condition before reached => ?_
      refine liftM_bind_apply_congr fun passes isPassed => ?_
      have branch := agrees _ (.branch onTrue onFalse reached isPassed)
      cases passes <;> exact branch
  | construct constructor arguments =>
      refine bind_apply_congr (mapM_isolated_congr ?_) fun _ _ _ => rfl
      rintro earlier operand later values before rfl reached
      exact agrees.isolated (.constructed constructor reached)
  | memberInit constructor arguments bindings =>
      refine bind_apply_congr (mapM_isolated_congr ?_) fun values middle areVisited => ?_
      · rintro earlier operand later values before rfl reached
        exact agrees.isolated (.allocated constructor bindings reached)
      · rw [← visitAll_eq_mapM] at areVisited
        refine liftM_bind_apply_congr fun allocated makes => foldlM_apply_congr ?_
        rintro earlier ⟨reference, operand⟩ later object before rfl reached
        have bound : visitBindings environment earlier allocated middle = (.ok object, before) := by
          rw [visitBindings_eq_foldlM]
          exact reached
        exact bind_apply_congr
          (agrees.isolated (.bound constructor reference areVisited makes bound))
          fun _ _ _ => rfl
  | listInit constructor arguments items =>
      refine bind_apply_congr (mapM_isolated_congr ?_) fun values middle areVisited => ?_
      · rintro earlier operand later values before rfl reached
        exact agrees.isolated (.listed constructor items reached)
      · rw [← visitAll_eq_mapM] at areVisited
        refine liftM_bind_apply_congr fun constructed makes => ?_
        cases constructed with
        | list elements =>
            refine bind_apply_congr (mapM_isolated_congr ?_) fun _ _ _ => rfl
            rintro earlier operand later values before rfl reached
            exact agrees.isolated (.item constructor areVisited makes reached)
        | _ => rfl
  | newArray elementType items =>
      refine bind_apply_congr (mapM_isolated_congr ?_) fun _ _ _ => rfl
      rintro earlier operand later values before rfl reached
      exact agrees.isolated (.element elementType reached)

end Agreement

end Expr
end RowBinding
