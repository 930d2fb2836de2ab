import RowBinding.Expression.Evaluator

/-!
# Steps of an evaluation

What a step yields in a context, whatever was recorded before. A step that
leaves every context as it was computes its value: an operand that is evaluated
in isolation does, and so does what is put together from such operands.

Negation and indexing are the two nodes that change the context of their
operand. What they do around the operand is a function of its evaluation.
-/

namespace RowBinding
namespace Eval

variable {α β : Type}

theorem bind_apply
    (step : Eval α)
    (next : α → Eval β)
    (state : EvalState) :
    (step >>= next) state =
      match step state with
      | (.ok value, final) => next value final
      | (.error error, final) => (.error error, final) := by
  change ExceptT.bindCont next (step state).1 (step state).2 = _
  cases step state with
  | mk result final => cases result <;> rfl

theorem bind_apply_of_ok
    {step : Eval α}
    {state final : EvalState}
    {value : α}
    (runs : step state = (.ok value, final))
    (next : α → Eval β) :
    (step >>= next) state = next value final := by
  rw [bind_apply, runs]

theorem bind_apply_of_error
    {step : Eval α}
    {state final : EvalState}
    {error : EvalError}
    (fails : step state = (.error error, final))
    (next : α → Eval β) :
    (step >>= next) state = (.error error, final) := by
  rw [bind_apply, fails]

/-- A sequence succeeds only after its first step does. -/
theorem bind_apply_eq_ok
    {step : Eval α}
    {next : α → Eval β}
    {state final : EvalState}
    {result : β}
    (runs : (step >>= next) state = (.ok result, final)) :
    ∃ value middle, step state = (.ok value, middle) ∧
      next value middle = (.ok result, final) := by
  rw [bind_apply] at runs
  generalize step state = outcome at runs
  obtain ⟨outcome, middle⟩ := outcome
  cases outcome with
  | error error => cases runs
  | ok value => exact ⟨value, middle, rfl, runs⟩

theorem liftM_apply_of_ok
    {result : Except EvalError α}
    {value : α}
    (succeeds : result = .ok value)
    (state : EvalState) :
    (liftM result : Eval α) state = (.ok value, state) := by
  subst succeeds
  rfl

/-! ## What a step yields -/

/-- In a context, a step yields a value and leaves another context behind. -/
def Yields
    (step : Eval α)
    (context : Context)
    (value : α)
    (final : Context) : Prop :=
  ∀ events, ∃ later, step ⟨context, events⟩ = (.ok value, ⟨final, later⟩)

/-- In every context, a step yields a value and leaves the context as it was. -/
def Computes (step : Eval α) (value : α) : Prop :=
  ∀ context, step.Yields context value context

theorem Yields.bind
    {step : Eval α}
    {next : α → Eval β}
    {first middle last : Context}
    {value : α}
    {result : β}
    (yields : step.Yields first value middle)
    (continues : (next value).Yields middle result last) :
    Yields (step >>= next) first result last := by
  intro events
  obtain ⟨between, runs⟩ := yields events
  obtain ⟨later, runsOn⟩ := continues between
  exact ⟨later, by rw [bind_apply_of_ok runs, runsOn]⟩

theorem yields_context (context : Context) :
    Yields Eval.context context context context :=
  fun events => ⟨events, rfl⟩

theorem yields_modifyContext (change : Context → Context) (context : Context) :
    (modifyContext change).Yields context () (change context) :=
  fun events => ⟨events, rfl⟩

theorem computes_pure (value : α) : Computes (pure value) value :=
  fun _ events => ⟨events, rfl⟩

theorem computes_record (event : Event) : (record event).Computes () :=
  fun _ events => ⟨event :: events, rfl⟩

theorem computes_liftM
    {result : Except EvalError α}
    {value : α}
    (succeeds : result = .ok value) :
    Computes (liftM result) value := by
  subst succeeds
  exact fun _ events => ⟨events, rfl⟩

theorem Computes.bind
    {step : Eval α}
    {next : α → Eval β}
    {value : α}
    {result : β}
    (computes : step.Computes value)
    (continues : (next value).Computes result) :
    Computes (step >>= next) result :=
  fun context => (computes context).bind (continues context)

/-- An isolated step computes what it yields in the empty context. -/
theorem Yields.isolated
    {step : Eval α}
    {value : α}
    {final : Context}
    (yields : step.Yields {} value final) :
    (Eval.isolated step).Computes value := by
  intro context events
  obtain ⟨later, runs⟩ := yields events
  refine ⟨later, ?_⟩
  change ((step ⟨{}, events⟩).1, { (step ⟨{}, events⟩).2 with context := context }) = _
  rw [runs]

theorem computes_readMember
    {environment : Environment}
    {member : MemberRef}
    {owner value : Value}
    (reads : member.read environment.host owner = .ok value) :
    (readMember environment member owner).Computes value :=
  (computes_record _).bind (computes_liftM reads)

theorem computes_invokeMethod
    {environment : Environment}
    {method : MethodRef}
    {receiver : Option Value}
    {arguments : List Value}
    {value : Value}
    (invokes : method.invoke environment.host receiver arguments = .ok value) :
    (invokeMethod environment method receiver arguments).Computes value :=
  (computes_record _).bind (computes_liftM invokes)

/-- The context of the owner of a member: a frame waits with the indices. -/
def pushed (context : Context) (member : MemberRef) : Context :=
  { context with
    frames := ⟨member, context.pending⟩ :: context.frames
    pending := [] }

theorem yields_pushFrame (member : MemberRef) (context : Context) :
    (pushFrame member).Yields context () (pushed context member) :=
  yields_modifyContext _ context

/-! ## Steps under a negation and under an index -/

/-- What a negation does around its operand. -/
def underNegation (step : Eval Value) : Eval Value := do
  let outer := (← context).negated
  modifyContext fun context => { context with negated := !outer }
  let value ← step
  if (← context).negated = outer then
    return value
  else
    modifyContext fun context => { context with negated := outer }
    value.logicalNot

/-- What an index does around its list. -/
def underIndex (index : Int) (step : Eval Value) : Eval Value := do
  let marker := (← context).pending.length
  modifyContext fun context => { context with pending := index :: context.pending }
  let value ← step
  let remaining := (← context).pending.length
  if marker < remaining then
    modifyContext fun context =>
      { context with pending := context.pending.drop (remaining - marker) }
    value.indexed index
  else
    return value

/-- A negation that the operand took is done with. -/
theorem yields_underNegation_of_taken
    {step : Eval Value}
    {final : Context}
    {value : Value}
    (context : Context)
    (yields : step.Yields { context with negated := !context.negated } value final)
    (taken : final.negated = context.negated) :
    (underNegation step).Yields context value final := by
  refine (yields_context context).bind ((yields_modifyContext _ context).bind
    (yields.bind ((yields_context final).bind ?_)))
  rw [if_pos taken]
  exact computes_pure value final

/-- A negation that the operand left is applied to the value of the operand. -/
theorem yields_underNegation_of_left
    {step : Eval Value}
    {final : Context}
    {value result : Value}
    (context : Context)
    (yields : step.Yields { context with negated := !context.negated } value final)
    (left : final.negated ≠ context.negated)
    (inverts : value.logicalNot = .ok result) :
    (underNegation step).Yields context result
      { final with negated := context.negated } := by
  refine (yields_context context).bind ((yields_modifyContext _ context).bind
    (yields.bind ((yields_context final).bind ?_)))
  rw [if_neg left]
  exact (yields_modifyContext _ final).bind (computes_liftM inverts _)

/-- An index that the list took is done with. -/
theorem yields_underIndex_of_taken
    {step : Eval Value}
    {final : Context}
    {index : Int}
    {value : Value}
    (context : Context)
    (yields : step.Yields
      { context with pending := index :: context.pending } value final)
    (taken : final.pending.length ≤ context.pending.length) :
    (underIndex index step).Yields context value final := by
  refine (yields_context context).bind ((yields_modifyContext _ context).bind
    (yields.bind ((yields_context final).bind ?_)))
  rw [if_neg (Nat.not_lt.mpr taken)]
  exact computes_pure value final

/-- An index that the list left is applied to the value of the list. -/
theorem yields_underIndex_of_left
    {step : Eval Value}
    {final : Context}
    {index : Int}
    {value element : Value}
    (context : Context)
    (yields : step.Yields
      { context with pending := index :: context.pending } value final)
    (left : final.pending = index :: context.pending)
    (isElement : value.indexed index = .ok element) :
    (underIndex index step).Yields context element
      { final with pending := context.pending } := by
  refine (yields_context context).bind ((yields_modifyContext _ context).bind
    (yields.bind ((yields_context final).bind ?_)))
  have remaining : context.pending.length < final.pending.length := by
    simp [left]
  have restored :
      final.pending.drop (final.pending.length - context.pending.length) =
        context.pending := by
    simp [left]
  have restores := yields_modifyContext (fun inner => { inner with
    pending := inner.pending.drop (final.pending.length - context.pending.length) }) final
  rw [if_pos remaining]
  rw [restored] at restores
  exact restores.bind (computes_liftM isElement _)

end Eval

namespace Expr

theorem visit_not
    (environment : Environment)
    (operand : Expr)
    (type : StaticType) :
    (Expr.unary .not operand type).visit environment =
      Eval.underNegation (operand.visit environment) := rfl

theorem visit_arrayIndex
    (environment : Environment)
    (list position : Expr) :
    (Expr.binary .arrayIndex list position).visit environment =
      (do
        let value ← Eval.isolated (position.visit environment)
        let index ← value.intOperand
        Eval.underIndex index (list.visit environment)) := rfl

end Expr
end RowBinding
