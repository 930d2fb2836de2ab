import Mathlib.Algebra.Ring.Parity
import RowBinding.Proofs.Expression.DetachedSteps
import RowBinding.Proofs.Expression.Induction
import RowBinding.Proofs.Outcome

/-!
# Negation

Two evaluations of one expression are compared, one in which no negation waits
and one in which one does. They fail alike, or the second one leaves the
negation and returns the same value, or it takes the negation and returns the
other truth value. A negation therefore inverts its operand once, wherever in
the operand it is taken.
-/

namespace RowBinding

/-- The state with a negation that waits or does not. -/
def EvalState.withNegated (state : EvalState) (negated : Bool) : EvalState :=
  { state with context := { state.context with negated := negated } }

/-- The state with other pending indices. -/
def EvalState.withPending (state : EvalState) (pending : List Int) : EvalState :=
  { state with context := { state.context with pending := pending } }

namespace EvalState

@[simp] theorem negated_withNegated (state : EvalState) (negated : Bool) :
    (state.withNegated negated).context.negated = negated := rfl

@[simp] theorem pending_withNegated (state : EvalState) (negated : Bool) :
    (state.withNegated negated).context.pending = state.context.pending := rfl

@[simp] theorem withNegated_withNegated
    (state : EvalState)
    (first second : Bool) :
    (state.withNegated first).withNegated second = state.withNegated second := rfl

theorem withNegated_of_eq
    {state : EvalState}
    {negated : Bool}
    (same : state.context.negated = negated) :
    state.withNegated negated = state := by
  subst same
  rfl

theorem withPending_withNegated
    (state : EvalState)
    (negated : Bool)
    (pending : List Int) :
    (state.withNegated negated).withPending pending =
      (state.withPending pending).withNegated negated := rfl

end EvalState

namespace Eval

variable {α β : Type}

/-! ## Steps that ignore the negation -/

/-- A step that neither looks at the negation nor changes it. -/
def Ignores (step : Eval α) : Prop :=
  ∀ state negated,
    step (state.withNegated negated) =
      ((step state).1, (step state).2.withNegated negated)

theorem Ignores.bind
    {step : Eval α}
    {next : α → Eval β}
    (ignores : step.Ignores)
    (continues : ∀ value, (next value).Ignores) :
    Ignores (step >>= next) := by
  intro state negated
  rw [bind_apply, bind_apply, ignores state negated]
  cases step state with
  | mk result final =>
      cases result with
      | error error => rfl
      | ok value => exact continues value final negated

theorem Detached.ignores {step : Eval α} (detached : step.Detached) : step.Ignores := by
  induction detached with
  | pure value | lift result | record event | isolated step => exact fun _ _ => rfl
  | bind _ _ ignores continues => exact ignores.bind continues

theorem ignores_modifyContext
    {change : Context → Context}
    (commutes : ∀ context negated,
      change { context with negated := negated } =
        { change context with negated := negated }) :
    (modifyContext change).Ignores := by
  intro state negated
  change (_, { state with context := change { state.context with negated := negated } }) = _
  rw [commutes]
  rfl

theorem ignores_context_bind
    {next : Context → Eval β}
    (same : ∀ context negated, next { context with negated := negated } = next context)
    (continues : ∀ context, (next context).Ignores) :
    Ignores (context >>= next) := by
  intro state negated
  change next { state.context with negated := negated } (state.withNegated negated) = _
  rw [same]
  exact continues state.context state negated

theorem ignores_takePending (value : Value) : (takePending value).Ignores :=
  ignores_context_bind (fun _ _ => rfl) fun context =>
    (ignores_modifyContext fun _ _ => rfl).bind fun _ =>
      (detached_applyIndices context.pending value).ignores

theorem ignores_pushFrame (member : MemberRef) : (pushFrame member).Ignores :=
  ignores_modifyContext fun _ _ => rfl

theorem ignores_replay (environment : Environment) (frames : List Frame) :
    ∀ value, (replay environment frames value).Ignores := by
  induction frames with
  | nil => exact fun value => (Detached.pure value).ignores
  | cons frame rest inductionHypothesis =>
      exact fun value => (ignores_modifyContext fun _ _ => rfl).bind fun _ =>
        (detached_readMember environment frame.member value).ignores.bind fun read =>
          (detached_applyIndices frame.indices read).ignores.bind inductionHypothesis

theorem ignores_resolveFrames (environment : Environment) (root : Value) :
    (resolveFrames environment root).Ignores :=
  ignores_context_bind (fun _ _ => rfl) fun context =>
    ignores_replay environment context.frames root

/-! ## Steps that a negation inverts -/

/-- The outcomes of a step without a negation that waits and with one. -/
inductive Inverted :
    Except EvalError Value × EvalState → Except EvalError Value × EvalState → Prop
  | failed (error : EvalError) (first second : EvalState) :
      Inverted (.error error, first) (.error error, second)
  | left (value : Value) (state : EvalState) (idle : state.context.negated = false) :
      Inverted (.ok value, state) (.ok value, state.withNegated true)
  | taken (truth : Bool) (state : EvalState) (idle : state.context.negated = false) :
      Inverted (.ok (.boolean truth), state) (.ok (.boolean !truth), state)

/-- A result that does not depend on the negation leaves it. -/
theorem Inverted.of_left
    (result : Except EvalError Value)
    (state : EvalState)
    (idle : state.context.negated = false) :
    Inverted (result, state) (result, state.withNegated true) := by
  cases result with
  | error error => exact .failed error _ _
  | ok value => exact .left value state idle

/-- A step that leaves a negation that waits, or takes it and inverts its value. -/
def Inverts (step : Eval Value) : Prop :=
  ∀ state, state.context.negated = false →
    Inverted (step state) (step (state.withNegated true))

/-- A step that ignores the negation leaves it idle where it is. -/
theorem Ignores.idle
    {step : Eval α}
    {state : EvalState}
    (ignores : step.Ignores)
    (idle : state.context.negated = false) :
    (step state).2.context.negated = false := by
  have unchanged := ignores state false
  rw [EvalState.withNegated_of_eq idle] at unchanged
  rw [unchanged]
  rfl

theorem Ignores.inverts {step : Eval Value} (ignores : step.Ignores) : step.Inverts := by
  intro state idle
  have finallyIdle := ignores.idle idle
  rw [ignores state true]
  exact .of_left _ _ finallyIdle

theorem Ignores.bind_inverts
    {step : Eval α}
    {next : α → Eval Value}
    (ignores : step.Ignores)
    (continues : ∀ value, (next value).Inverts) :
    Inverts (step >>= next) := by
  intro state idle
  have finallyIdle := ignores.idle idle
  rw [bind_apply, bind_apply, ignores state true]
  generalize step state = outcome at finallyIdle
  obtain ⟨result, final⟩ := outcome
  cases result with
  | error error => exact .failed error _ _
  | ok value => exact continues value final finallyIdle

theorem takeNegation_boolean_apply (truth : Bool) (state : EvalState) :
    takeNegation (.boolean truth) state =
      if state.context.negated then (.ok (.boolean !truth), state.withNegated false)
      else (.ok (.boolean truth), state) := by
  change (ite (state.context.negated = true) _ _ : Eval Value) state = _
  split <;> rfl

theorem inverts_takeNegation (value : Value) : (takeNegation value).Inverts := by
  intro state idle
  cases value with
  | boolean truth =>
      rw [takeNegation_boolean_apply, takeNegation_boolean_apply]
      simp only [idle, EvalState.negated_withNegated, Bool.false_eq_true, if_false,
        if_true, EvalState.withNegated_withNegated, EvalState.withNegated_of_eq idle]
      exact .taken truth state idle
  | _ => exact .left _ state idle

/-! ## Negations and indices around a step -/

theorem underNegation_apply (step : Eval Value) (state : EvalState) :
    underNegation step state =
      match step (state.withNegated !state.context.negated) with
      | (.ok value, final) =>
          if final.context.negated = state.context.negated then (.ok value, final)
          else (value.logicalNot, final.withNegated state.context.negated)
      | (.error error, final) => (.error error, final) := by
  change (step >>= _) (state.withNegated !state.context.negated) = _
  rw [bind_apply]
  generalize step (state.withNegated !state.context.negated) = outcome
  obtain ⟨result, final⟩ := outcome
  cases result with
  | error error => rfl
  | ok value =>
      change (ite (final.context.negated = state.context.negated) _ _ : Eval Value)
        final = _
      simp only
      split <;> rfl

/-- Under a negation, a step that negations invert yields the inverse of its value. -/
theorem Inverts.underNegation_fst
    {step : Eval Value}
    {state : EvalState}
    (inverts : step.Inverts)
    (idle : state.context.negated = false) :
    (underNegation step state).1 = (do (← (step state).1).logicalNot) := by
  have outcomes := inverts state idle
  rw [underNegation_apply, idle, Bool.not_false]
  generalize step state = without at outcomes
  generalize step (state.withNegated true) = waiting at outcomes
  cases outcomes with
  | failed error first second => rfl
  | left value final finallyIdle =>
      simp [EvalState.negated_withNegated]
  | taken truth final finallyIdle =>
      simp [finallyIdle, Value.logicalNot]

theorem Inverts.underNegation
    {step : Eval Value}
    (inverts : step.Inverts) :
    (underNegation step).Inverts := by
  intro state idle
  have outcomes := inverts state idle
  rw [underNegation_apply, underNegation_apply, idle, EvalState.negated_withNegated,
    EvalState.withNegated_withNegated, Bool.not_false, Bool.not_true,
    EvalState.withNegated_of_eq idle]
  generalize step state = without at outcomes
  generalize step (state.withNegated true) = waiting at outcomes
  cases outcomes with
  | failed error first second => exact .failed error _ _
  | left value final finallyIdle =>
      simp only [finallyIdle, EvalState.negated_withNegated,
        EvalState.withNegated_withNegated, Bool.true_eq_false, Bool.false_eq_true, if_false,
        EvalState.withNegated_of_eq finallyIdle]
      exact .of_left _ final finallyIdle
  | taken truth final finallyIdle =>
      simp only [finallyIdle, Value.logicalNot, Bool.false_eq_true, if_true, if_false]
      exact .left _ final finallyIdle

/-- A value with an index applied to it, if the index still waits above a depth. -/
def leaveIndex
    (index : Int)
    (depth : Nat)
    (value : Value)
    (state : EvalState) : Except EvalError Value × EvalState :=
  if depth < state.context.pending.length then
    (value.indexed index,
      state.withPending (state.context.pending.drop (state.context.pending.length - depth)))
  else
    (.ok value, state)

theorem leaveIndex_withNegated
    (index : Int)
    (depth : Nat)
    (value : Value)
    (state : EvalState)
    (negated : Bool) :
    leaveIndex index depth value (state.withNegated negated) =
      ((leaveIndex index depth value state).1,
        (leaveIndex index depth value state).2.withNegated negated) := by
  unfold leaveIndex
  rw [EvalState.pending_withNegated]
  split <;> rfl

theorem negated_leaveIndex
    (index : Int)
    (depth : Nat)
    (value : Value)
    (state : EvalState) :
    (leaveIndex index depth value state).2.context.negated = state.context.negated := by
  unfold leaveIndex
  split <;> rfl

theorem underIndex_apply (index : Int) (step : Eval Value) (state : EvalState) :
    underIndex index step state =
      match step (state.withPending (index :: state.context.pending)) with
      | (.ok value, final) => leaveIndex index state.context.pending.length value final
      | (.error error, final) => (.error error, final) := by
  change (step >>= _) (state.withPending (index :: state.context.pending)) = _
  rw [bind_apply]
  generalize step (state.withPending (index :: state.context.pending)) = outcome
  obtain ⟨result, final⟩ := outcome
  cases result with
  | error error => rfl
  | ok value =>
      change (ite (state.context.pending.length < final.context.pending.length) _ _ :
        Eval Value) final = _
      simp only [leaveIndex]
      split <;> rfl

theorem Inverts.underIndex
    {step : Eval Value}
    (index : Int)
    (inverts : step.Inverts) :
    (underIndex index step).Inverts := by
  intro state idle
  have outcomes := inverts (state.withPending (index :: state.context.pending)) idle
  rw [underIndex_apply, underIndex_apply, EvalState.pending_withNegated,
    EvalState.withPending_withNegated]
  generalize state.context.pending.length = depth
  generalize step (state.withPending (index :: state.context.pending)) =
    without at outcomes
  generalize step (EvalState.withNegated _ true) = waiting at outcomes
  cases outcomes with
  | failed error first second => exact .failed error _ _
  | left value final finallyIdle =>
      dsimp only
      rw [leaveIndex_withNegated]
      exact .of_left _ _ ((negated_leaveIndex ..).trans finallyIdle)
  | taken truth final finallyIdle =>
      dsimp only [leaveIndex]
      split
      · exact .failed _ _ _
      · exact .taken truth final finallyIdle

end Eval

namespace Expr

open Eval

/-! ## Every expression -/

theorem inverts_of_composed
    {expression : Expr}
    (environment : Environment)
    (composed : expression.isComposed = true) :
    (expression.visit environment).Inverts :=
  (detached_visit environment composed).ignores.inverts

theorem inverts_constant (environment : Environment) (literal : Value) :
    (Eval.constant environment literal).Inverts :=
  (ignores_resolveFrames environment literal).bind_inverts fun _ =>
    (ignores_takePending _).bind_inverts inverts_takeNegation

theorem inverts_member
    (environment : Environment)
    (owner : Expr)
    (reference : MemberRef)
    (inverts : (owner.visit environment).Inverts) :
    ((Expr.member owner reference).visit environment).Inverts := by
  unfold visit
  cases owner.ownerKind with
  | input name => exact (detached_throw _).ignores.inverts
  | chained => exact (ignores_pushFrame reference).bind_inverts fun _ => inverts
  | computed =>
      exact (ignores_pushFrame reference).bind_inverts fun _ =>
        (Detached.isolated _).ignores.bind_inverts fun root =>
          (ignores_resolveFrames environment root).bind_inverts inverts_takeNegation

theorem inverts_unary
    (environment : Environment)
    (operator : UnaryOperator)
    (operand : Expr)
    (type : StaticType)
    (inverts : (operand.visit environment).Inverts) :
    ((Expr.unary operator operand type).visit environment).Inverts := by
  cases operator with
  | not => exact inverts.underNegation
  | _ => exact inverts_of_composed environment rfl

theorem inverts_binary
    (environment : Environment)
    (operator : BinaryOperator)
    (left right : Expr)
    (inverts : (left.visit environment).Inverts) :
    ((Expr.binary operator left right).visit environment).Inverts := by
  cases operator with
  | arrayIndex =>
      exact (Detached.isolated _).ignores.bind_inverts fun _ =>
        (Detached.lift _).ignores.bind_inverts fun index => inverts.underIndex index
  | _ => exact inverts_of_composed environment rfl

theorem inverts_conditional
    (environment : Environment)
    (test onTrue onFalse : Expr)
    (invertsTrue : (onTrue.visit environment).Inverts)
    (invertsFalse : (onFalse.visit environment).Inverts) :
    ((Expr.conditional test onTrue onFalse).visit environment).Inverts := by
  refine (Detached.isolated _).ignores.bind_inverts fun _ =>
    (Detached.lift _).ignores.bind_inverts fun passes => ?_
  cases passes with
  | true => exact invertsTrue
  | false => exact invertsFalse

/-- A negation that waits inverts every expression once, or is left by it. -/
theorem inverts_visit (environment : Environment) (expression : Expr) :
    (expression.visit environment).Inverts := by
  induction expression using inductionOn with
  | lambda parameters body invertsBody => exact invertsBody
  | constant literal type => exact inverts_constant environment literal
  | member owner reference invertsOwner =>
      exact inverts_member environment owner reference invertsOwner
  | staticMember reference =>
      exact (ignores_pushFrame reference).bind_inverts fun _ =>
        inverts_constant environment reference.placeholder
  | call receiver method arguments _ _ =>
      exact (detached_visitArguments environment arguments).ignores.bind_inverts fun _ =>
        (Detached.isolated _).ignores.bind_inverts fun _ =>
          (detached_callThrough _ _ _ _).ignores.bind_inverts inverts_takeNegation
  | staticCall method arguments _ =>
      exact (detached_visitArguments environment arguments).ignores.bind_inverts fun _ =>
        (detached_callThrough _ _ _ _).ignores.bind_inverts inverts_takeNegation
  | unary operator operand type invertsOperand =>
      exact inverts_unary environment operator operand type invertsOperand
  | binary operator left right invertsLeft _ =>
      exact inverts_binary environment operator left right invertsLeft
  | conditional test onTrue onFalse _ invertsTrue invertsFalse =>
      exact inverts_conditional environment test onTrue onFalse invertsTrue invertsFalse
  | _ => exact inverts_of_composed environment rfl

/-! ## Negated expressions -/

/-- The negation of an expression is evaluated to the inverse of its value. -/
theorem result_evaluate_not
    (environment : Environment)
    (operand : Expr)
    (type : StaticType) :
    ((Expr.unary .not operand type).evaluate environment).result =
      (do (← (operand.evaluate environment).result).logicalNot) := by
  have inverts := inverts_visit environment operand
  change ((Expr.unary .not operand type).visit environment {}).1 = _
  rw [visit_not]
  exact inverts.underNegation_fst rfl

/-- An expression under a stack of negations, the outermost one first. -/
def negatedBy (types : List StaticType) (operand : Expr) : Expr :=
  types.foldr (fun type negated => .unary .not negated type) operand

theorem result_evaluate_negatedBy
    {environment : Environment}
    {operand : Expr}
    {truth : Bool}
    (evaluates : (operand.evaluate environment).result = .ok (.boolean truth))
    (types : List StaticType) :
    ((operand.negatedBy types).evaluate environment).result =
      .ok (.boolean (Bool.not^[types.length] truth)) := by
  induction types with
  | nil => exact evaluates
  | cons type rest inductionHypothesis =>
      have outermost :=
        result_evaluate_not environment (operand.negatedBy rest) type
      rw [inductionHypothesis] at outermost
      rw [List.length_cons, Function.iterate_succ_apply']
      exact outermost

/-- A negation succeeds exactly when its operand has a value with an inverse,
which it then returns, and fails as its operand fails; an even stack of
negations leaves a truth value as it is. -/
theorem evaluate_not (environment : Environment) (operand : Expr) :
    (∀ type value,
      ((Expr.unary .not operand type).evaluate environment).result = .ok value ↔
        ∃ inner, (operand.evaluate environment).result = .ok inner ∧
          inner.logicalNot = .ok value) ∧
    (∀ type error, (operand.evaluate environment).result = .error error →
      ((Expr.unary .not operand type).evaluate environment).result = .error error) ∧
    (∀ type truth, (operand.evaluate environment).result = .ok (.boolean truth) →
      ((Expr.unary .not operand type).evaluate environment).result =
        .ok (.boolean !truth)) ∧
    (∀ type number, (operand.evaluate environment).result = .ok (.integer number) →
      ((Expr.unary .not operand type).evaluate environment).result =
        .ok (.integer number.complement)) ∧
    (∀ type, (operand.evaluate environment).result = .ok .null →
      ((Expr.unary .not operand type).evaluate environment).result = .ok .null) ∧
    (∀ types truth, Even types.length →
      (operand.evaluate environment).result = .ok (.boolean truth) →
      ((operand.negatedBy types).evaluate environment).result =
        .ok (.boolean truth)) := by
  have inverse := result_evaluate_not environment operand
  refine ⟨fun type value => ?_, fun type error fails => ?_, fun type truth evaluates => ?_,
    fun type number evaluates => ?_, fun type evaluates => ?_,
    fun types truth even evaluates => ?_⟩
  · rw [inverse type]
    exact Outcome.bind_eq_ok_iff
  · rw [inverse type, fails]
    rfl
  · rw [inverse type, evaluates]
    rfl
  · rw [inverse type, evaluates]
    rfl
  · rw [inverse type, evaluates]
    rfl
  · have unchanged : Bool.not^[types.length] = id :=
      Function.Involutive.iterate_even Bool.involutive_not even
    have stacked := result_evaluate_negatedBy evaluates types
    rw [unchanged] at stacked
    exact stacked

end Expr
end RowBinding
