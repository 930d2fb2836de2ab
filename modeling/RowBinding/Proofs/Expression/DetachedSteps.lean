import RowBinding.Proofs.Expression.Steps

/-!
# Detached steps

A step is detached if it is put together from results, records and isolated
steps. It does not look at the context and leaves it as it is, whether it
succeeds or fails.

Operands that are evaluated in order, each in isolation, make detached steps,
and so do the expressions that need no more of the evaluator than that.
-/

namespace RowBinding
namespace Eval

variable {α β δ : Type}

/-- A step that is put together from results, records and isolated steps. -/
inductive Detached : {α : Type} → Eval α → Prop
  | pure {α : Type} (value : α) : Detached (pure value)
  | lift {α : Type} (result : Except EvalError α) : Detached (liftM result)
  | record (event : Event) : Detached (Eval.record event)
  | isolated {α : Type} (step : Eval α) : Detached (Eval.isolated step)
  | bind
      {α β : Type}
      {step : Eval α}
      {next : α → Eval β}
      (detached : Detached step)
      (continues : ∀ value, Detached (next value)) : Detached (step >>= next)

/-- A detached step leaves the context as it is, also where it fails. -/
theorem Detached.context_eq {step : Eval α} (detached : step.Detached) :
    ∀ {state result final}, step state = (result, final) →
      final.context = state.context := by
  induction detached with
  | pure value | lift result | record event | isolated step =>
      intro state result final runs
      cases runs
      rfl
  | @bind _ _ step next _ _ stays continues =>
      intro state result final runs
      rw [bind_apply] at runs
      cases first : step state with
      | mk outcome middle =>
          have unchanged := stays first
          rw [first] at runs
          cases outcome with
          | error error =>
              cases runs
              exact unchanged
          | ok value => exact (continues value runs).trans unchanged

theorem detached_throw (error : EvalError) : Detached (throw error : Eval α) :=
  .lift (.error error)

theorem detached_applyIndices (indices : List Int) :
    ∀ value, (applyIndices indices value).Detached := by
  induction indices with
  | nil => exact .pure
  | cons index rest inductionHypothesis =>
      exact fun value => .bind (.lift (value.indexed index)) inductionHypothesis

theorem detached_readMember
    (environment : Environment)
    (member : MemberRef)
    (owner : Value) :
    (readMember environment member owner).Detached :=
  .bind (.record _) fun _ => .lift _

theorem detached_invokeMethod
    (environment : Environment)
    (method : MethodRef)
    (receiver : Option Value)
    (arguments : List Value) :
    (invokeMethod environment method receiver arguments).Detached :=
  .bind (.record _) fun _ => .lift _

theorem detached_callThrough
    (environment : Environment)
    (site : CallSite)
    (receiver : Option Value)
    (arguments : List Value) :
    (callThrough environment site receiver arguments).Detached := by
  have invoked := detached_invokeMethod environment site.method receiver arguments
  unfold callThrough
  cases environment.interceptor with
  | none => exact invoked
  | some interceptor =>
      have asked (result : Value) :
          Detached (do
            record (.after site receiver result)
            return interceptor.after receiver result site) :=
        .bind (.record _) fun _ => .pure _
      refine .bind (.record _) fun _ => ?_
      cases interceptor.before receiver site with
      | none => exact .bind invoked asked
      | some value => exact .bind (.pure value) asked

/-! ## Steps for every item -/

theorem Detached.mapM
    {step : δ → Eval α}
    (detached : ∀ item, (step item).Detached)
    (items : List δ) :
    (items.mapM step).Detached := by
  induction items with
  | nil => exact .pure []
  | cons item rest inductionHypothesis =>
      rw [List.mapM_cons]
      exact .bind (detached item) fun _ => .bind inductionHypothesis fun _ => .pure _

theorem Detached.foldlM
    {step : α → δ → Eval α}
    (detached : ∀ value item, (step value item).Detached)
    (items : List δ) :
    ∀ value, (items.foldlM step value).Detached := by
  induction items with
  | nil => exact .pure
  | cons item rest inductionHypothesis =>
      intro value
      rw [List.foldlM_cons]
      exact .bind (detached value item) inductionHypothesis

section Failing

variable {item : δ} {before after : EvalState} {error : EvalError}

/-- Where the step of an item fails, the later items do not matter. -/
theorem mapM_of_failing
    {step : δ → Eval α}
    {earlier : List δ}
    (later : List δ)
    (fails : step item before = (.error error, after)) :
    ∀ {values state}, earlier.mapM step state = (.ok values, before) →
      (earlier ++ item :: later).mapM step state = (.error error, after) := by
  induction earlier with
  | nil =>
      intro values state reached
      cases reached
      rw [List.nil_append, List.mapM_cons]
      exact bind_apply_of_error fails _
  | cons first rest inductionHypothesis =>
      intro values state reached
      rw [List.mapM_cons] at reached
      obtain ⟨value, middle, isValue, reached⟩ := bind_apply_eq_ok reached
      obtain ⟨others, final, areOthers, reached⟩ := bind_apply_eq_ok reached
      cases reached
      rw [List.cons_append, List.mapM_cons]
      exact (bind_apply_of_ok isValue _).trans
        (bind_apply_of_error (inductionHypothesis areOthers) _)

theorem foldlM_of_failing
    {step : α → δ → Eval α}
    {earlier : List δ}
    (later : List δ)
    (fails : ∀ value, step value item before = (.error error, after)) :
    ∀ {start value state}, earlier.foldlM step start state = (.ok value, before) →
      (earlier ++ item :: later).foldlM step start state = (.error error, after) := by
  induction earlier with
  | nil =>
      intro start value state reached
      cases reached
      rw [List.nil_append, List.foldlM_cons]
      exact bind_apply_of_error (fails start) _
  | cons first rest inductionHypothesis =>
      intro start value state reached
      rw [List.foldlM_cons] at reached
      obtain ⟨next, middle, isNext, reached⟩ := bind_apply_eq_ok reached
      rw [List.cons_append, List.foldlM_cons]
      exact (bind_apply_of_ok isNext _).trans (inductionHypothesis reached)

end Failing
end Eval

namespace Expr

open Eval

/-! ## Operands in order -/

theorem visitAll_eq_mapM (environment : Environment) (expressions : List Expr) :
    visitAll environment expressions =
      expressions.mapM fun expression => isolated (expression.visit environment) := by
  induction expressions with
  | nil => rfl
  | cons expression rest inductionHypothesis =>
      rw [List.mapM_cons, ← inductionHypothesis]
      rfl

/-- An argument is handed over if it is typed as an expression, or else evaluated. -/
def visitArgument (environment : Environment) (argument : Expr) : Eval Value :=
  if argument.staticType = .expression then pure (.quoted argument.unquote)
  else isolated (argument.visit environment)

theorem visitArguments_eq_mapM (environment : Environment) (arguments : List Expr) :
    visitArguments environment arguments = arguments.mapM (visitArgument environment) := by
  induction arguments with
  | nil => rfl
  | cons argument rest inductionHypothesis =>
      unfold visitArguments
      rw [List.mapM_cons, ← inductionHypothesis, visitArgument]
      split <;> rfl

/-- Write the value of an expression to a member of an object. -/
def visitBinding
    (environment : Environment)
    (object : Value)
    (binding : MemberRef × Expr) : Eval Value := do
  let value ← isolated (binding.2.visit environment)
  binding.1.write environment.host object value

theorem visitBindings_eq_foldlM
    (environment : Environment)
    (bindings : List (MemberRef × Expr)) :
    ∀ object, visitBindings environment bindings object =
      bindings.foldlM (visitBinding environment) object := by
  induction bindings with
  | nil => exact fun _ => rfl
  | cons binding rest inductionHypothesis =>
      intro object
      rw [List.foldlM_cons, ← funext inductionHypothesis, visitBinding, bind_assoc]
      rfl

theorem detached_visitAll (environment : Environment) (expressions : List Expr) :
    (visitAll environment expressions).Detached := by
  rw [visitAll_eq_mapM]
  exact .mapM (fun _ => .isolated _) expressions

theorem detached_visitArguments (environment : Environment) (arguments : List Expr) :
    (visitArguments environment arguments).Detached := by
  rw [visitArguments_eq_mapM]
  refine .mapM (fun argument => ?_) arguments
  unfold visitArgument
  split
  · exact .pure _
  · exact .isolated _

theorem detached_visitBindings
    (environment : Environment)
    (bindings : List (MemberRef × Expr))
    (object : Value) :
    (visitBindings environment bindings object).Detached := by
  rw [visitBindings_eq_foldlM]
  exact .foldlM (fun _ _ => .bind (.isolated _) fun _ => .lift _) bindings object

/-! ## Composed expressions -/

/-- Whether the value of an expression is composed of the values of isolated operands. -/
def isComposed : Expr → Bool
  | .parameter _ _ | .defaultOf _ | .binaryBy _ _ _ _ | .construct _ _
  | .memberInit _ _ _ | .listInit _ _ _ | .newArray _ _ => true
  | .unary operator _ _ => operator != .not
  | .binary operator _ _ => operator != .arrayIndex
  | .lambda _ _ | .constant _ _ | .member _ _ | .staticMember _ | .call _ _ _
  | .staticCall _ _ | .conditional _ _ _ => false

theorem ownerKind_ne_chained {expression : Expr} (composed : expression.isComposed = true) :
    expression.ownerKind ≠ .chained := by
  cases expression <;> simp [isComposed, ownerKind] at composed ⊢

theorem detached_binary
    {operator : BinaryOperator}
    (environment : Environment)
    (noIndex : operator ≠ .arrayIndex)
    (left right : Expr) :
    ((Expr.binary operator left right).visit environment).Detached := by
  have second : Detached (do
      let value ← isolated (right.visit environment)
      return Value.boolean (← value.truthy)) :=
    .bind (.isolated _) fun _ => .bind (.lift _) fun _ => .pure _
  cases operator with
  | arrayIndex => exact absurd rfl noIndex
  | andAlso =>
      refine .bind (.isolated _) fun _ => .bind (.lift _) fun passes => ?_
      cases passes with
      | true => exact second
      | false => exact .pure _
  | orElse =>
      refine .bind (.isolated _) fun _ => .bind (.lift _) fun passes => ?_
      cases passes with
      | true => exact .pure _
      | false => exact second
  | _ => exact .bind (.isolated _) fun _ => .bind (.isolated _) fun _ => .lift _

theorem detached_listInit
    (environment : Environment)
    (constructor : ConstructorRef)
    (arguments items : List Expr) :
    ((Expr.listInit constructor arguments items).visit environment).Detached := by
  refine .bind (detached_visitAll environment arguments) fun _ =>
    .bind (.lift _) fun constructed => ?_
  cases constructed with
  | list earlier => exact .bind (detached_visitAll environment items) fun _ => .pure _
  | _ => exact detached_throw _

/-- A composed expression takes no part in the context that it is evaluated in. -/
theorem detached_visit
    {expression : Expr}
    (environment : Environment)
    (composed : expression.isComposed = true) :
    (expression.visit environment).Detached := by
  cases expression with
  | parameter name type | defaultOf type => exact .pure _
  | unary operator operand type =>
      cases operator with
      | not => cases composed
      | negate | convert => exact .bind (.isolated _) fun _ => .lift _
      | quote => exact .pure _
  | binary operator left right =>
      exact detached_binary environment (bne_iff_ne.mp composed) left right
  | binaryBy operator left right method =>
      exact .bind (.isolated _) fun _ => .bind (.isolated _) fun _ =>
        detached_invokeMethod _ _ _ _
  | construct constructor arguments =>
      exact .bind (detached_visitAll environment arguments) fun _ => .lift _
  | memberInit constructor arguments bindings =>
      exact .bind (detached_visitAll environment arguments) fun _ =>
        .bind (.lift _) fun allocated =>
          detached_visitBindings environment bindings allocated
  | listInit constructor arguments items =>
      exact detached_listInit environment constructor arguments items
  | newArray elementType items =>
      exact .bind (detached_visitAll environment items) fun _ => .pure _
  | _ => cases composed

end Expr
end RowBinding
