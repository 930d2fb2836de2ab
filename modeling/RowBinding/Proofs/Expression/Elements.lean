import RowBinding.Proofs.Expression.Agreement
import RowBinding.Proofs.Expression.Negation
import RowBinding.Proofs.Expression.Results

/-!
# Elements of lists

What an expression comes to under indices that wait. Constants and members
apply the indices themselves, and other expressions leave them; either way the
element is that of the value of the expression, unless a negation or another
node stands in between.
-/

namespace RowBinding
namespace Eval

variable {α : Type}

theorem Leaves.of_inContext
    {step : Eval α}
    {context final : Context}
    {left : Context → Prop}
    {value : α}
    (leaves : step.Leaves context left)
    (runs : step.inContext context = .ok (value, final)) :
    left final := by
  unfold inContext forget at runs
  generalize outcome : step ⟨context, []⟩ = both at runs
  obtain ⟨result, state⟩ := both
  cases result with
  | error error => cases runs
  | ok result =>
      cases runs
      exact leaves [] value state outcome

/-- A detached step does in every context what it does in the empty one. -/
theorem Detached.apply_eq {step : Eval α} (detached : step.Detached) :
    ∀ context events, step ⟨context, events⟩ =
      ((step ⟨{}, events⟩).1, ⟨context, (step ⟨{}, events⟩).2.events⟩) := by
  induction detached with
  | pure value | lift result | record event | isolated step => exact fun _ _ => rfl
  | @bind _ _ step next detached _ same sameNext =>
      intro context events
      have unchanged : (step ⟨{}, events⟩).2.context = {} := detached.context_eq rfl
      rw [bind_apply, bind_apply, same context events]
      generalize step ⟨{}, events⟩ = outcome at unchanged
      obtain ⟨result, ⟨between, later⟩⟩ := outcome
      cases result with
      | error error => rfl
      | ok value =>
          obtain rfl : between = {} := unchanged
          exact sameNext value context later

theorem Detached.inContext_eq
    {step : Eval α}
    (detached : step.Detached)
    (context : Context) :
    step.inContext context = (step.inContext {}).map fun given => (given.1, context) := by
  rw [inContext, inContext, detached.apply_eq context []]
  generalize step ⟨{}, []⟩ = outcome
  obtain ⟨result, final⟩ := outcome
  cases result <;> rfl

/-! ## Roots of chains -/

section Roots

variable (environment : Environment)

theorem inContext_takeNegation
    {context : Context}
    (idle : context.negated = false)
    (value : Value) :
    (takeNegation value).inContext context = .ok (value, context) := by
  cases value with
  | boolean truth =>
      rw [inContext, takeNegation_boolean_apply, idle]
      rfl
  | _ => rfl

theorem inContext_applyIndices (indices : List Int) :
    ∀ value context, (applyIndices indices value).inContext context =
      (value.indexedBy indices).map fun element => (element, context) := by
  induction indices with
  | nil => exact fun _ _ => rfl
  | cons index rest inductionHypothesis =>
      intro value context
      rw [applyIndices, inContext_liftM_bind, Value.indexedBy, List.foldlM_cons,
        Outcome.map_bind]
      exact congrArg _ (funext fun element => inductionHypothesis element context)

theorem inContext_takePending (value : Value) (context : Context) :
    (takePending value).inContext context =
      (value.indexedBy context.pending).map fun element =>
        (element, { context with pending := [] }) :=
  inContext_applyIndices context.pending value _

theorem inContext_readMember (member : MemberRef) (owner : Value) (context : Context) :
    (readMember environment member owner).inContext context =
      (member.read environment.host owner).map fun value => (value, context) := by
  change forget ((liftM (member.read environment.host owner) : Eval Value) ⟨context, _⟩) = _
  cases member.read environment.host owner <;> rfl

theorem inContext_replay (frames : List Frame) :
    ∀ value context, context.frames = frames →
      (replay environment frames value).inContext context =
        (frames.foldlM (Frame.readFrom environment) value).map fun settled =>
          (settled, { context with frames := [] }) := by
  induction frames with
  | nil =>
      intro value context noFrames
      obtain ⟨frames, pending, negated⟩ := context
      obtain rfl : frames = [] := noFrames
      rfl
  | cons frame rest inductionHypothesis =>
      intro value context _
      change (readMember environment frame.member value >>= fun read =>
        applyIndices frame.indices read >>= replay environment rest).inContext
          { context with frames := rest } = _
      rw [inContext_bind fun read =>
          (IgnoresEvents.applyIndices frame.indices read).bind
            (IgnoresEvents.replay environment rest),
        inContext_readMember, List.foldlM_cons, Frame.readFrom]
      cases frame.member.read environment.host value with
      | error error => rfl
      | ok read =>
          change (applyIndices frame.indices read >>= replay environment rest).inContext _ = _
          rw [inContext_bind (IgnoresEvents.replay environment rest), inContext_applyIndices]
          cases elements : read.indexedBy frame.indices with
          | error error => simp only [Outcome.ok_bind, elements]; rfl
          | ok element =>
              simp only [Outcome.ok_bind, elements]
              exact inductionHypothesis element _ rfl

theorem inContext_resolveFrames (root : Value) (context : Context) :
    (resolveFrames environment root).inContext context =
      (context.frames.foldlM (Frame.readFrom environment) root).map fun settled =>
        (settled, { context with frames := [] }) :=
  inContext_replay environment context.frames root context rfl

/-- A constant applies what waits for it, and leaves nothing behind. -/
theorem inContext_constant
    {context : Context}
    (idle : context.negated = false)
    (rootless : context.frames = [] ∨ context.pending = [])
    (literal : Value) :
    (constant environment literal).inContext context =
      (context.settle environment literal).map fun settled => (settled, {}) := by
  obtain ⟨frames, pending, negated⟩ := context
  obtain rfl : negated = false := idle
  rw [constant, inContext_bind fun resolved =>
      (IgnoresEvents.takePending resolved).bind IgnoresEvents.takeNegation,
    inContext_resolveFrames]
  have taken (resolved : Value) :
      (takePending resolved >>= takeNegation).inContext ⟨[], pending, false⟩ =
        (resolved.indexedBy pending).map fun element => (element, {}) := by
    rw [inContext_bind IgnoresEvents.takeNegation, inContext_takePending]
    cases resolved.indexedBy pending with
    | error error => rfl
    | ok element => exact inContext_takeNegation rfl element
  rcases rootless with noFrames | noIndices
  · obtain rfl : frames = [] := noFrames
    refine (taken literal).trans ?_
    change _ = ((literal.indexedBy pending >>= pure : Except EvalError Value)).map _
    rw [bind_pure]
  · obtain rfl : pending = [] := noIndices
    change _ = (frames.foldlM (Frame.readFrom environment) literal).map _
    cases frames.foldlM (Frame.readFrom environment) literal with
    | error error => rfl
    | ok settled => exact taken settled

end Roots
end Eval

namespace Expr

open Eval

/-! ## Links of chains -/

section Chains

variable {environment : Environment}

/-- The frames and the indices that wait for an expression are applied to a result. -/
def SettlesTo
    (environment : Environment)
    (expression : Expr)
    (result : Except EvalError Value) : Prop :=
  ∀ context : Context, context.negated = false →
    context.frames = [] ∨ context.pending = [] →
      (expression.visit environment).inContext context =
        (do context.settle environment (← result)).map fun settled => (settled, {})

theorem SettlesTo.result_evaluate
    {expression : Expr}
    {result : Except EvalError Value}
    (settles : expression.SettlesTo environment result) :
    (expression.evaluate environment).result = result := by
  rw [Expr.result_evaluate, settles {} rfl (.inl rfl)]
  cases result <;> rfl

theorem settlesTo_constant (literal : Value) (type : StaticType) :
    (Expr.constant literal type).SettlesTo environment (.ok literal) :=
  fun _ idle rootless => inContext_constant environment idle rootless literal

theorem settlesTo_staticMember (reference : MemberRef) :
    (Expr.staticMember reference).SettlesTo environment
      (reference.read environment.host reference.placeholder) := by
  intro context idle _
  let waiting : Context := pushed context reference
  have isIdle : waiting.negated = false := idle
  rw [← settle_pushed]
  exact inContext_constant environment isIdle (.inr rfl) reference.placeholder

theorem settlesTo_member_of_input
    {owner : Expr}
    {name : String}
    (kind : owner.ownerKind = .input name)
    (reference : MemberRef) :
    (Expr.member owner reference).SettlesTo environment
      (.error (.parameterDereference reference.name name)) := by
  intro context _ _
  unfold visit
  rw [kind]
  rfl

theorem settlesTo_member_of_chained
    {owner : Expr}
    {root : Except EvalError Value}
    (kind : owner.ownerKind = .chained)
    (reference : MemberRef)
    (settles : owner.SettlesTo environment root) :
    (Expr.member owner reference).SettlesTo environment
      (do reference.read environment.host (← root)) := by
  intro context idle _
  unfold visit
  rw [kind]
  refine (settles (pushed context reference) idle (.inr rfl)).trans ?_
  simp only [settle_pushed, bind_assoc]

theorem settlesTo_member_of_computed
    {owner : Expr}
    (kind : owner.ownerKind = .computed)
    (reference : MemberRef) :
    (Expr.member owner reference).SettlesTo environment
      (do reference.read environment.host (← (owner.evaluate environment).result)) := by
  intro context idle _
  obtain ⟨frames, pending, negated⟩ := context
  obtain rfl : negated = false := idle
  let waiting : Context := pushed ⟨frames, pending, false⟩ reference
  unfold visit
  rw [kind]
  change (isolated (owner.visit environment) >>= fun root =>
    resolveFrames environment root >>= takeNegation).inContext waiting = _
  rw [inContext_operand_bind _ _ fun root =>
    (IgnoresEvents.resolveFrames environment root).bind .takeNegation, bind_assoc,
    Outcome.map_bind]
  refine congrArg _ (funext fun root => ?_)
  rw [inContext_bind IgnoresEvents.takeNegation, inContext_resolveFrames, ← settle_pushed]
  change _ = (waiting.frames.foldlM (Frame.readFrom environment) root).map _
  cases waiting.frames.foldlM (Frame.readFrom environment) root with
  | error error => rfl
  | ok settled => exact inContext_takeNegation rfl settled

/-- Every link of a chain has the frames and the indices applied to its value. -/
theorem settlesTo_of_chained
    {expression : Expr}
    (chained : expression.ownerKind = .chained) :
    expression.SettlesTo environment (expression.evaluate environment).result := by
  suffices settles : ∃ result, expression.SettlesTo environment result by
    obtain ⟨result, settles⟩ := settles
    rwa [settles.result_evaluate]
  induction expression using inductionOn with
  | constant literal type => exact ⟨_, settlesTo_constant literal type⟩
  | staticMember reference => exact ⟨_, settlesTo_staticMember reference⟩
  | member owner reference settlesOwner =>
      cases kind : owner.ownerKind with
      | input name => exact ⟨_, settlesTo_member_of_input kind reference⟩
      | chained =>
          obtain ⟨root, settles⟩ := settlesOwner kind
          exact ⟨_, settlesTo_member_of_chained kind reference settles⟩
      | computed => exact ⟨_, settlesTo_member_of_computed kind reference⟩
  | _ => cases chained

/-- A member is read from the value of its owner, unless the owner is an input. -/
theorem result_evaluate_member
    {owner : Expr}
    (noInput : ∀ name, owner.ownerKind ≠ .input name)
    (reference : MemberRef) :
    ((Expr.member owner reference).evaluate environment).result =
      (do reference.read environment.host (← (owner.evaluate environment).result)) := by
  cases kind : owner.ownerKind with
  | input name => exact absurd kind (noInput name)
  | chained =>
      exact (settlesTo_member_of_chained kind reference
        (settlesTo_of_chained kind)).result_evaluate
  | computed => exact (settlesTo_member_of_computed kind reference).result_evaluate

end Chains

/-! ## Elements -/

section Elements

variable (environment : Environment)

/-- What an expression comes to under indices, where those that it leaves are applied to its
value. -/
def elementAt (expression : Expr) (indices : List Int) : Except EvalError Value := do
  let (value, final) ← (expression.visit environment).inContext { pending := indices }
  value.indexedBy final.pending

/-- An expression that is evaluated under indices leaves all of them or none. -/
theorem final_of_inContext
    {environment : Environment}
    {expression : Expr}
    {indices : List Int}
    {value : Value}
    {final : Context}
    (runs : (expression.visit environment).inContext { pending := indices } =
      .ok (value, final)) :
    final = { pending := indices } ∨ final = {} := by
  have spent : Context.Spent { pending := indices } final :=
    (spends environment expression { pending := indices } (.inl rfl)).of_inContext runs
  obtain ⟨frames, pending, negated⟩ := final
  obtain rfl : frames = [] := spent.frames_eq
  obtain rfl : negated = false := spent.negated.elim id id
  have indicesLeft : pending = indices ∨ pending = [] := spent.pending
  rcases indicesLeft with rfl | rfl
  · exact .inl rfl
  · exact .inr rfl

theorem elementAt_nil (expression : Expr) :
    expression.elementAt environment [] = (expression.evaluate environment).result := by
  rw [result_evaluate, elementAt]
  cases runs : (expression.visit environment).inContext {} with
  | error error => rfl
  | ok given =>
      obtain ⟨value, final⟩ := given
      obtain rfl : final = {} := (final_of_inContext runs).elim id id
      rfl

theorem inContext_conditional (test onTrue onFalse : Expr) (context : Context) :
    ((Expr.conditional test onTrue onFalse).visit environment).inContext context = (do
      if ← (← (test.evaluate environment).result).truthy then
        (onTrue.visit environment).inContext context
      else
        (onFalse.visit environment).inContext context) :=
  inContext_truthy_bind environment test (ignoresEvents_visit environment onTrue)
    (ignoresEvents_visit environment onFalse) context

theorem elementAt_conditional (test onTrue onFalse : Expr) (indices : List Int) :
    (Expr.conditional test onTrue onFalse).elementAt environment indices = (do
      if ← (← (test.evaluate environment).result).truthy then
        onTrue.elementAt environment indices
      else
        onFalse.elementAt environment indices) := by
  rw [elementAt, inContext_conditional, bind_assoc]
  refine congrArg _ (funext fun value => ?_)
  rw [bind_assoc]
  refine congrArg _ (funext fun passes => ?_)
  cases passes <;> rfl

/-- An index goes down into its list, and is applied to the value of the list if the list
leaves it. -/
theorem inContext_index (list position : Expr) (indices : List Int) :
    ((Expr.index list position).visit environment).inContext { pending := indices } = (do
      let place ← (position.evaluate environment).result
      let index ← place.intOperand
      let (value, final) ← (list.visit environment).inContext { pending := index :: indices }
      if final = {} then return (value, {})
      else return (← value.indexed index, { pending := indices })) := by
  have ignores := ignoresEvents_visit environment list
  have visits : (Expr.index list position).visit environment = _ :=
    visit_arrayIndex environment list position
  rw [visits, inContext_operand_bind _ _ fun _ =>
    (IgnoresEvents.liftM _).bind fun index => ignores.underIndex index]
  refine congrArg _ (funext fun place => ?_)
  rw [inContext_liftM_bind]
  refine congrArg _ (funext fun index => ?_)
  rw [inContext, underIndex_apply, inContext]
  dsimp only [EvalState.withPending]
  cases runs : list.visit environment ⟨{ pending := index :: indices }, []⟩ with
  | mk result final =>
      cases result with
      | error error => rfl
      | ok value =>
          obtain ⟨context, events⟩ := final
          change forget (leaveIndex index indices.length value ⟨context, events⟩) =
            if context = {} then _ else _
          have given : (list.visit environment).inContext { pending := index :: indices } =
              .ok (value, context) := by
            rw [inContext, runs]
            rfl
          rcases final_of_inContext given with rfl | rfl
          · rw [if_neg (by simp), leaveIndex, if_pos (by simp)]
            simp only [List.length_cons, Nat.add_sub_cancel_left, List.drop_succ_cons,
              List.drop_zero]
            cases value.indexed index <;> rfl
          · rw [if_pos rfl, leaveIndex, if_neg (by simp)]
            rfl

/-- The index of a list is applied before the indices around it. -/
theorem elementAt_index (list position : Expr) (indices : List Int) :
    (Expr.index list position).elementAt environment indices = (do
      let place ← (position.evaluate environment).result
      let index ← place.intOperand
      list.elementAt environment (index :: indices)) := by
  rw [elementAt, inContext_index, bind_assoc]
  refine congrArg _ (funext fun place => ?_)
  rw [bind_assoc]
  refine congrArg _ (funext fun index => ?_)
  rw [elementAt]
  cases runs : (list.visit environment).inContext { pending := index :: indices } with
  | error error => rfl
  | ok given =>
      obtain ⟨value, final⟩ := given
      rcases final_of_inContext runs with rfl | rfl
      · simp only [Outcome.ok_bind, Value.indexedBy, List.foldlM_cons]
        rw [if_neg (by simp)]
        cases value.indexed index <;> rfl
      · rfl

/-- An expression under indices comes to the element of its value. -/
def YieldsElements (expression : Expr) : Prop :=
  ∀ indices, expression.elementAt environment indices =
    (do (← (expression.evaluate environment).result).indexedBy indices)

variable {environment}

theorem yieldsElements_of_chained
    {expression : Expr}
    (chained : expression.ownerKind = .chained) :
    expression.YieldsElements environment := by
  intro indices
  have settles : expression.SettlesTo environment (expression.evaluate environment).result :=
    settlesTo_of_chained chained
  rw [elementAt, settles { pending := indices } rfl (.inl rfl)]
  cases (expression.evaluate environment).result with
  | error error => rfl
  | ok value =>
      have settled : ({ pending := indices } : Context).settle environment value =
          value.indexedBy indices := bind_pure _
      simp only [Outcome.ok_bind, settled]
      cases value.indexedBy indices <;> rfl

/-- An expression that leaves the indices that wait for it. -/
def LeavesIndices (environment : Environment) (expression : Expr) : Prop :=
  ∀ indices, (expression.visit environment).inContext { pending := indices } =
    (expression.evaluate environment).result.map fun value => (value, { pending := indices })

theorem LeavesIndices.yieldsElements
    {expression : Expr}
    (leaves : expression.LeavesIndices environment) :
    expression.YieldsElements environment := by
  intro indices
  rw [elementAt, leaves indices]
  cases (expression.evaluate environment).result <;> rfl

theorem leavesIndices_of_detached
    {expression : Expr}
    {step : Eval Value}
    (detached : step.Detached)
    (same : ∀ indices, (expression.visit environment).inContext { pending := indices } =
      step.inContext { pending := indices }) :
    expression.LeavesIndices environment := by
  intro indices
  rw [result_evaluate, same indices, same [], detached.inContext_eq]
  cases step.inContext {} <;> rfl

theorem leavesIndices_of_composed
    {expression : Expr}
    (composed : expression.isComposed = true) :
    expression.LeavesIndices environment :=
  leavesIndices_of_detached (detached_visit environment composed) fun _ => rfl

/-- What a call comes to meets no negation where none waits. -/
theorem inContext_bind_takeNegation
    {step : Eval Value}
    (detached : step.Detached)
    (indices : List Int) :
    (step >>= takeNegation).inContext { pending := indices } =
      step.inContext { pending := indices } := by
  rw [inContext_bind IgnoresEvents.takeNegation, detached.inContext_eq]
  cases step.inContext {} with
  | error error => rfl
  | ok given => exact inContext_takeNegation rfl given.1

theorem leavesIndices_call (receiver : Expr) (method : MethodRef) (arguments : List Expr) :
    (Expr.call receiver method arguments).LeavesIndices environment := by
  let calling : Eval Value := do
    let values ← visitArguments environment arguments
    let owner ← isolated (receiver.visit environment)
    callThrough environment ⟨some receiver, method, arguments⟩ owner.asReceiver values
  have detached : calling.Detached :=
    .bind (detached_visitArguments environment arguments) fun _ => .bind (.isolated _) fun _ =>
      detached_callThrough _ _ _ _
  have visits : (Expr.call receiver method arguments).visit environment =
      calling >>= takeNegation := by
    simp only [calling, bind_assoc]
    rfl
  exact leavesIndices_of_detached detached fun indices =>
    visits ▸ inContext_bind_takeNegation detached indices

theorem leavesIndices_staticCall (method : MethodRef) (arguments : List Expr) :
    (Expr.staticCall method arguments).LeavesIndices environment := by
  let calling : Eval Value := do
    let values ← visitArguments environment arguments
    callThrough environment ⟨none, method, arguments⟩ none values
  have detached : calling.Detached :=
    .bind (detached_visitArguments environment arguments) fun _ => detached_callThrough _ _ _ _
  have visits : (Expr.staticCall method arguments).visit environment =
      calling >>= takeNegation := by
    simp only [calling, bind_assoc]
    rfl
  exact leavesIndices_of_detached detached fun indices =>
    visits ▸ inContext_bind_takeNegation detached indices

/-- The element of an element of a list is the element that both indices lead to. -/
theorem YieldsElements.index
    {list : Expr}
    (yields : list.YieldsElements environment)
    (position : Expr) :
    (Expr.index list position).YieldsElements environment := by
  intro indices
  rw [← elementAt_nil, elementAt_index, elementAt_index, bind_assoc]
  refine congrArg _ (funext fun place => ?_)
  rw [bind_assoc]
  refine congrArg _ (funext fun index => ?_)
  rw [yields, yields, bind_assoc]
  refine congrArg _ (funext fun value => ?_)
  simp only [Value.indexedBy, List.foldlM_cons, List.foldlM_nil, bind_assoc, pure_bind]

theorem YieldsElements.result_evaluate_index
    {list : Expr}
    (yields : list.YieldsElements environment)
    (position : Expr) :
    ((Expr.index list position).evaluate environment).result = (do
      let place ← (position.evaluate environment).result
      let index ← place.intOperand
      (← (list.evaluate environment).result).indexed index) := by
  rw [← elementAt_nil, elementAt_index]
  refine congrArg _ (funext fun place => congrArg _ (funext fun index => ?_))
  rw [yields]
  refine congrArg _ (funext fun value => ?_)
  exact bind_pure (value.indexed index)

end Elements

/-- The first position of a list. -/
def firstPosition : Expr :=
  .ofValue (.integer (.zero .int32))

end Expr
end RowBinding
