import RowBinding.Proofs.Expression.DetachedSteps
import RowBinding.Proofs.Expression.Induction

/-!
# Clean contexts

An evaluation that succeeds leaves nothing behind in its context. Frames are
replayed by the expression that they wait for. Indices and a negation are used
up below the node that brought them, or else are still there behind its operand,
and the node takes them out again.

Operands in isolation see nothing of the context of their parent. Whether they
succeed or fail, they leave it as it was, so every one of them is evaluated
beside the context that the parent began with.
-/

namespace RowBinding

/-- No frame waits any longer, and indices and a negation are kept or used up. -/
structure Context.Spent (context final : Context) : Prop where
  frames_eq : final.frames = []
  pending : final.pending = context.pending ∨ final.pending = []
  negated : final.negated = context.negated ∨ final.negated = false

namespace Context.Spent

theorem of_frames_eq_nil {context : Context} (noFrames : context.frames = []) :
    context.Spent context :=
  ⟨noFrames, .inl rfl, .inl rfl⟩

/-- Nothing waits any longer but a negation. -/
theorem of_chain (context : Context) : context.Spent ⟨[], [], context.negated⟩ :=
  ⟨rfl, .inr rfl, .inl rfl⟩

/-- Indices that went into a frame are used up with the frame. -/
theorem of_pushed
    {context final : Context}
    {member : MemberRef}
    (spent : (Eval.pushed context member).Spent final) :
    context.Spent final :=
  ⟨spent.frames_eq, .inr (spent.pending.elim id id), spent.negated⟩

theorem eq_empty {final : Context} (spent : ({} : Context).Spent final) : final = {} := by
  obtain ⟨frames, pending, negated⟩ := final
  have noFrames : frames = [] := spent.frames_eq
  have noIndices : pending = [] := spent.pending.elim id id
  have notNegated : negated = false := spent.negated.elim id id
  rw [noFrames, noIndices, notNegated]

end Context.Spent

namespace Eval

variable {α β : Type}

/-- If a step succeeds in a context, it leaves a context of some kind. -/
def Leaves (step : Eval α) (context : Context) (left : Context → Prop) : Prop :=
  ∀ events value final, step ⟨context, events⟩ = (.ok value, final) → left final.context

section Leaves

variable {step : Eval α} {next : α → Eval β} {context : Context} {left : Context → Prop}

theorem Leaves.bind
    {between : Context → Prop}
    (leaves : step.Leaves context between)
    (continues : ∀ value middle, between middle → (next value).Leaves middle left) :
    Leaves (step >>= next) context left := by
  intro events result final runs
  obtain ⟨value, middle, first, second⟩ := bind_apply_eq_ok runs
  exact continues value _ (leaves events value middle first) _ result final second

theorem Detached.bind_leaves
    (detached : step.Detached)
    (continues : ∀ value, (next value).Leaves context left) :
    Leaves (step >>= next) context left := by
  intro events result final runs
  obtain ⟨value, ⟨middle, recorded⟩, first, second⟩ := bind_apply_eq_ok runs
  obtain rfl : middle = context := detached.context_eq first
  exact continues value recorded result final second

theorem Yields.bind_leaves
    {value : α}
    {middle : Context}
    (yields : step.Yields context value middle)
    (continues : (next value).Leaves middle left) :
    Leaves (step >>= next) context left := by
  intro events result final runs
  obtain ⟨later, first⟩ := yields events
  rw [bind_apply_of_ok first] at runs
  exact continues later result final runs

/-- A detached step leaves the context that it runs in. -/
theorem Detached.leaves (detached : step.Detached) (isLeft : left context) :
    step.Leaves context left := by
  intro events value final runs
  rw [detached.context_eq runs]
  exact isLeft

end Leaves

/-! ## Frames, indices and negations -/

section Chains

variable (environment : Environment) (context : Context)

theorem leaves_replay (frames : List Frame) :
    ∀ value context, context.frames = frames →
      (replay environment frames value).Leaves context (· = { context with frames := [] }) := by
  induction frames with
  | nil =>
      intro value context noFrames
      refine (Detached.pure value).leaves ?_
      rw [← noFrames]
  | cons frame rest inductionHypothesis =>
      intro value context _
      exact (yields_modifyContext _ context).bind_leaves
        ((detached_readMember environment frame.member value).bind_leaves fun read =>
          (detached_applyIndices frame.indices read).bind_leaves fun element =>
            inductionHypothesis element _ rfl)

theorem leaves_resolveFrames (root : Value) :
    (resolveFrames environment root).Leaves context (· = { context with frames := [] }) :=
  (yields_context context).bind_leaves
    (leaves_replay environment context.frames root context rfl)

theorem leaves_takePending (value : Value) :
    (takePending value).Leaves context (· = { context with pending := [] }) :=
  (yields_context context).bind_leaves
    ((yields_modifyContext _ context).bind_leaves
      ((detached_applyIndices context.pending value).leaves rfl))

/-- A negation that is taken is used up, and one that is not taken is kept. -/
theorem takeNegation_spends
    {context used : Context}
    (spent : context.Spent used)
    (value : Value) :
    (takeNegation value).Leaves used context.Spent := by
  cases value with
  | boolean truth =>
      refine (yields_context used).bind_leaves ?_
      split
      · exact (yields_modifyContext _ used).bind_leaves
          ((Detached.pure _).leaves ⟨spent.frames_eq, spent.pending, .inr rfl⟩)
      · exact (Detached.pure _).leaves spent
  | _ => exact (Detached.pure _).leaves spent

theorem constant_spends (literal : Value) :
    (constant environment literal).Leaves context context.Spent := by
  refine (leaves_resolveFrames environment context literal).bind fun resolved _ isResolved => ?_
  rw [isResolved]
  refine (leaves_takePending _ resolved).bind fun value _ isTaken => ?_
  rw [isTaken]
  exact takeNegation_spends (.of_chain context) value

/-- A negation that the operand left is put back to where it was. -/
theorem underNegation_spends
    {step : Eval Value}
    (spends : step.Leaves { context with negated := !context.negated }
      ({ context with negated := !context.negated } : Context).Spent) :
    (underNegation step).Leaves context context.Spent := by
  refine (yields_context context).bind_leaves ((yields_modifyContext _ context).bind_leaves
    (spends.bind fun value final spent => (yields_context final).bind_leaves ?_))
  obtain ⟨noFrames, indices, _⟩ := spent
  split
  · next taken => exact (Detached.pure value).leaves ⟨noFrames, indices, .inl taken⟩
  · exact (yields_modifyContext _ final).bind_leaves
      ((Detached.lift value.logicalNot).leaves ⟨noFrames, indices, .inl rfl⟩)

/-- An index that the list left is taken out of the context. -/
theorem underIndex_spends
    {step : Eval Value}
    (index : Int)
    (spends : step.Leaves { context with pending := index :: context.pending }
      ({ context with pending := index :: context.pending } : Context).Spent) :
    (underIndex index step).Leaves context context.Spent := by
  refine (yields_context context).bind_leaves ((yields_modifyContext _ context).bind_leaves
    (spends.bind fun value final spent => (yields_context final).bind_leaves ?_))
  obtain ⟨noFrames, indices, negation⟩ := spent
  rcases indices with kept | used
  · have remaining : context.pending.length < final.pending.length := by simp [kept]
    have restored :
        final.pending.drop (final.pending.length - context.pending.length) =
          context.pending := by
      simp [kept]
    rw [if_pos remaining]
    exact (yields_modifyContext _ final).bind_leaves
      ((Detached.lift (value.indexed index)).leaves ⟨noFrames, .inl restored, negation⟩)
  · have noneLeft : ¬ context.pending.length < final.pending.length := by simp [used]
    rw [if_neg noneLeft]
    exact (Detached.pure value).leaves ⟨noFrames, .inr used, negation⟩

/-- What a call returns meets the negation beside the context of the call. -/
theorem callThrough_spends
    {context : Context}
    (noFrames : context.frames = [])
    (site : CallSite)
    (receiver : Option Value)
    (arguments : List Value) :
    Leaves (callThrough environment site receiver arguments >>= takeNegation) context
      context.Spent :=
  (detached_callThrough environment site receiver arguments).bind_leaves
    (takeNegation_spends (.of_frames_eq_nil noFrames))

end Chains
end Eval

namespace Expr

open Eval

/-! ## Every expression -/

/-- Where no frame waits for another expression, the expression spends what waits. -/
def Spends (environment : Environment) (expression : Expr) : Prop :=
  ∀ context : Context, context.frames = [] ∨ expression.ownerKind = .chained →
    (expression.visit environment).Leaves context context.Spent

variable {environment : Environment}

theorem spends_of_composed {expression : Expr} (composed : expression.isComposed = true) :
    expression.Spends environment := by
  intro context rootless
  have noFrames := rootless.resolve_right (ownerKind_ne_chained composed)
  exact (detached_visit environment composed).leaves (.of_frames_eq_nil noFrames)

theorem spends_staticMember (reference : MemberRef) :
    (Expr.staticMember reference).Spends environment := by
  intro context _
  refine (yields_pushFrame reference context).bind_leaves fun events value final runs => ?_
  exact .of_pushed (constant_spends environment _ reference.placeholder events value final runs)

theorem spends_member
    {owner : Expr}
    (reference : MemberRef)
    (spends : owner.Spends environment) :
    (Expr.member owner reference).Spends environment := by
  intro context _
  unfold visit
  cases kind : owner.ownerKind with
  | input name => exact fun _ _ _ runs => by cases runs
  | chained =>
      refine (yields_pushFrame reference context).bind_leaves fun events value final runs => ?_
      exact .of_pushed (spends _ (.inr kind) events value final runs)
  | computed =>
      refine (yields_pushFrame reference context).bind_leaves
        ((Detached.isolated _).bind_leaves fun root =>
          (leaves_resolveFrames environment _ root).bind fun value _ isResolved => ?_)
      rw [isResolved]
      exact takeNegation_spends (.of_chain context) value

theorem spends_conditional
    {test onTrue onFalse : Expr}
    (spendsTrue : onTrue.Spends environment)
    (spendsFalse : onFalse.Spends environment) :
    (Expr.conditional test onTrue onFalse).Spends environment := by
  intro context rootless
  have noFrames : context.frames = [] := rootless.resolve_right nofun
  refine (Detached.isolated _).bind_leaves fun _ => (Detached.lift _).bind_leaves fun passes => ?_
  cases passes with
  | true => exact spendsTrue context (.inl noFrames)
  | false => exact spendsFalse context (.inl noFrames)

theorem spends_unary
    {operand : Expr}
    (operator : UnaryOperator)
    (type : StaticType)
    (spends : operand.Spends environment) :
    (Expr.unary operator operand type).Spends environment := by
  cases operator with
  | not =>
      exact fun context rootless => underNegation_spends context
        (spends _ (.inl (rootless.resolve_right nofun)))
  | _ => exact spends_of_composed rfl

theorem spends_binary
    {left : Expr}
    (operator : BinaryOperator)
    (right : Expr)
    (spends : left.Spends environment) :
    (Expr.binary operator left right).Spends environment := by
  cases operator with
  | arrayIndex =>
      exact fun context rootless =>
        (Detached.isolated _).bind_leaves fun _ => (Detached.lift _).bind_leaves fun index =>
          underIndex_spends context index (spends _ (.inl (rootless.resolve_right nofun)))
  | _ => exact spends_of_composed rfl

/-- Every expression spends what waits for it. -/
theorem spends (environment : Environment) (expression : Expr) :
    expression.Spends environment := by
  induction expression using inductionOn with
  | lambda parameters body spendsBody =>
      exact fun context rootless => spendsBody context (.inl (rootless.resolve_right nofun))
  | constant literal type => exact fun context _ => constant_spends environment context literal
  | member owner reference spendsOwner => exact spends_member reference spendsOwner
  | staticMember reference => exact spends_staticMember reference
  | call receiver method arguments _ _ =>
      exact fun context rootless =>
        (detached_visitArguments environment arguments).bind_leaves fun _ =>
          (Detached.isolated _).bind_leaves fun _ =>
            callThrough_spends environment (rootless.resolve_right nofun) _ _ _
  | staticCall method arguments _ =>
      exact fun context rootless =>
        (detached_visitArguments environment arguments).bind_leaves fun _ =>
          callThrough_spends environment (rootless.resolve_right nofun) _ _ _
  | unary operator operand type spendsOperand =>
      exact spends_unary operator type spendsOperand
  | binary operator left right spendsLeft _ => exact spends_binary operator right spendsLeft
  | conditional test onTrue onFalse _ spendsTrue spendsFalse =>
      exact spends_conditional spendsTrue spendsFalse
  | _ => exact spends_of_composed rfl

/-! ## Operands in isolation -/

/-- The context beside which an expression evaluates its isolated operands. In the context
of a member, its frame waits already. -/
def operandContext : Expr → Context → Context
  | .member _ reference, context => pushed context reference
  | _, context => context

end Expr

/-- Whether an operator goes on to its second operand after a value of the first one. -/
def BinaryOperator.GoesOn (operator : BinaryOperator) (first : Value) : Prop :=
  match operator with
  | .andAlso => first.truthy = .ok true
  | .orElse => first.truthy = .ok false
  | .arrayIndex => False
  | _ => True

namespace Expr

open Eval

/-- The evaluation of an expression from a state comes, in another state, to an operand that
it evaluates in isolation. -/
inductive Isolates (environment : Environment) : Expr → EvalState → Expr → EvalState → Prop
  | owner
      {owner : Expr}
      (computed : owner.ownerKind = .computed)
      (reference : MemberRef)
      (state : EvalState) :
      Isolates environment (.member owner reference) state
        owner { state with context := pushed state.context reference }
  | argument
      {earlier later : List Expr}
      {operand : Expr}
      {values : List Value}
      {state before : EvalState}
      (receiver : Expr)
      (method : MethodRef)
      (reached : visitArguments environment earlier state = (.ok values, before))
      (evaluated : operand.staticType ≠ .expression) :
      Isolates environment (.call receiver method (earlier ++ operand :: later)) state
        operand before
  | receiver
      {arguments : List Expr}
      {values : List Value}
      {state before : EvalState}
      (receiver : Expr)
      (method : MethodRef)
      (reached : visitArguments environment arguments state = (.ok values, before)) :
      Isolates environment (.call receiver method arguments) state receiver before
  | staticArgument
      {earlier later : List Expr}
      {operand : Expr}
      {values : List Value}
      {state before : EvalState}
      (method : MethodRef)
      (reached : visitArguments environment earlier state = (.ok values, before))
      (evaluated : operand.staticType ≠ .expression) :
      Isolates environment (.staticCall method (earlier ++ operand :: later)) state
        operand before
  | operand
      {operator : UnaryOperator}
      (computes : operator = .negate ∨ operator = .convert)
      (operand : Expr)
      (type : StaticType)
      (state : EvalState) :
      Isolates environment (.unary operator operand type) state operand state
  | left
      {operator : BinaryOperator}
      (noIndex : operator ≠ .arrayIndex)
      (left right : Expr)
      (state : EvalState) :
      Isolates environment (.binary operator left right) state left state
  | right
      {operator : BinaryOperator}
      {left : Expr}
      {first : Value}
      {state before : EvalState}
      (right : Expr)
      (reached : isolated (left.visit environment) state = (.ok first, before))
      (continues : operator.GoesOn first) :
      Isolates environment (.binary operator left right) state right before
  | position (list position : Expr) (state : EvalState) :
      Isolates environment (.binary .arrayIndex list position) state position state
  | leftBy
      (operator : BinaryOperator)
      (left right : Expr)
      (method : MethodRef)
      (state : EvalState) :
      Isolates environment (.binaryBy operator left right method) state left state
  | rightBy
      {left : Expr}
      {first : Value}
      {state before : EvalState}
      (operator : BinaryOperator)
      (right : Expr)
      (method : MethodRef)
      (reached : isolated (left.visit environment) state = (.ok first, before)) :
      Isolates environment (.binaryBy operator left right method) state right before
  | test (test onTrue onFalse : Expr) (state : EvalState) :
      Isolates environment (.conditional test onTrue onFalse) state test state
  | constructed
      {earlier later : List Expr}
      {operand : Expr}
      {values : List Value}
      {state before : EvalState}
      (constructor : ConstructorRef)
      (reached : visitAll environment earlier state = (.ok values, before)) :
      Isolates environment (.construct constructor (earlier ++ operand :: later)) state
        operand before
  | allocated
      {earlier later : List Expr}
      {operand : Expr}
      {values : List Value}
      {state before : EvalState}
      (constructor : ConstructorRef)
      (bindings : List (MemberRef × Expr))
      (reached : visitAll environment earlier state = (.ok values, before)) :
      Isolates environment (.memberInit constructor (earlier ++ operand :: later) bindings)
        state operand before
  | bound
      {arguments : List Expr}
      {earlier later : List (MemberRef × Expr)}
      {operand : Expr}
      {values : List Value}
      {object written : Value}
      {state middle before : EvalState}
      (constructor : ConstructorRef)
      (reference : MemberRef)
      (visited : visitAll environment arguments state = (.ok values, middle))
      (makes : constructor.invoke environment.host values = .ok object)
      (reached : visitBindings environment earlier object middle = (.ok written, before)) :
      Isolates environment
        (.memberInit constructor arguments (earlier ++ (reference, operand) :: later)) state
        operand before
  | listed
      {earlier later : List Expr}
      {operand : Expr}
      {values : List Value}
      {state before : EvalState}
      (constructor : ConstructorRef)
      (items : List Expr)
      (reached : visitAll environment earlier state = (.ok values, before)) :
      Isolates environment (.listInit constructor (earlier ++ operand :: later) items) state
        operand before
  | item
      {arguments earlier later : List Expr}
      {operand : Expr}
      {values elements added : List Value}
      {state middle before : EvalState}
      (constructor : ConstructorRef)
      (visited : visitAll environment arguments state = (.ok values, middle))
      (makes : constructor.invoke environment.host values = .ok (.list elements))
      (reached : visitAll environment earlier middle = (.ok added, before)) :
      Isolates environment (.listInit constructor arguments (earlier ++ operand :: later))
        state operand before
  | element
      {earlier later : List Expr}
      {operand : Expr}
      {values : List Value}
      {state before : EvalState}
      (elementType : StaticType)
      (reached : visitAll environment earlier state = (.ok values, before)) :
      Isolates environment (.newArray elementType (earlier ++ operand :: later)) state
        operand before

/-- Every isolated operand is evaluated beside the context that its parent began with. -/
theorem Isolates.context_eq
    {parent operand : Expr}
    {start before : EvalState}
    (isolates : Isolates environment parent start operand before) :
    before.context = parent.operandContext start.context := by
  cases isolates with
  | owner | operand | left | position | leftBy | test => rfl
  | argument _ _ reached | receiver _ _ reached | staticArgument _ reached =>
      exact (detached_visitArguments environment _).context_eq reached
  | right _ reached | rightBy _ _ _ reached => exact (Detached.isolated _).context_eq reached
  | constructed _ reached | allocated _ _ reached | listed _ _ reached | element _ reached =>
      exact (detached_visitAll environment _).context_eq reached
  | bound _ _ visited _ reached =>
      exact ((detached_visitBindings environment _ _).context_eq reached).trans
        ((detached_visitAll environment _).context_eq visited)
  | item _ visited _ reached =>
      exact ((detached_visitAll environment _).context_eq reached).trans
        ((detached_visitAll environment _).context_eq visited)

section Failures

variable {operand : Expr} {before after : EvalState} {error : EvalError}

theorem visitAll_of_failing
    {earlier : List Expr}
    {values : List Value}
    {state : EvalState}
    (later : List Expr)
    (fails : isolated (operand.visit environment) before = (.error error, after))
    (reached : visitAll environment earlier state = (.ok values, before)) :
    visitAll environment (earlier ++ operand :: later) state = (.error error, after) := by
  rw [visitAll_eq_mapM] at reached ⊢
  exact mapM_of_failing later fails reached

theorem visitArguments_of_failing
    {earlier : List Expr}
    {values : List Value}
    {state : EvalState}
    (later : List Expr)
    (evaluated : operand.staticType ≠ .expression)
    (fails : isolated (operand.visit environment) before = (.error error, after))
    (reached : visitArguments environment earlier state = (.ok values, before)) :
    visitArguments environment (earlier ++ operand :: later) state = (.error error, after) := by
  have argumentFails : visitArgument environment operand before = (.error error, after) := by
    rw [visitArgument, if_neg evaluated]
    exact fails
  rw [visitArguments_eq_mapM] at reached ⊢
  exact mapM_of_failing later argumentFails reached

theorem visitBindings_of_failing
    {earlier : List (MemberRef × Expr)}
    {object written : Value}
    {state : EvalState}
    (reference : MemberRef)
    (later : List (MemberRef × Expr))
    (fails : isolated (operand.visit environment) before = (.error error, after))
    (reached : visitBindings environment earlier object state = (.ok written, before)) :
    visitBindings environment (earlier ++ (reference, operand) :: later) object state =
      (.error error, after) := by
  rw [visitBindings_eq_foldlM] at reached ⊢
  exact foldlM_of_failing later (fun _ => bind_apply_of_error fails _) reached

theorem visit_binary_of_failing
    {operator : BinaryOperator}
    {left : Expr}
    {first : Value}
    {state : EvalState}
    (reached : isolated (left.visit environment) state = (.ok first, before))
    (continues : operator.GoesOn first)
    (fails : isolated (operand.visit environment) before = (.error error, after)) :
    (Expr.binary operator left operand).visit environment state = (.error error, after) := by
  have secondFails (next : Value → Eval Value) :
      (isolated (operand.visit environment) >>= next) before = (.error error, after) :=
    bind_apply_of_error fails next
  cases operator with
  | arrayIndex => exact continues.elim
  | andAlso | orElse =>
      exact (bind_apply_of_ok reached _).trans
        ((bind_apply_of_ok (liftM_apply_of_ok continues before) _).trans (secondFails _))
  | _ => exact (bind_apply_of_ok reached _).trans (secondFails _)

/-- A parent fails where one of its isolated operands does, in the state that is left. -/
theorem Isolates.fails
    {parent : Expr}
    {start : EvalState}
    (isolates : Isolates environment parent start operand before)
    (fails : isolated (operand.visit environment) before = (.error error, after)) :
    parent.visit environment start = (.error error, after) := by
  cases isolates with
  | owner computed reference state =>
      unfold visit
      rw [computed]
      exact bind_apply_of_error fails _
  | argument receiver method reached evaluated =>
      exact bind_apply_of_error (visitArguments_of_failing _ evaluated fails reached) _
  | receiver _ method reached =>
      exact (bind_apply_of_ok reached _).trans (bind_apply_of_error fails _)
  | staticArgument method reached evaluated =>
      exact bind_apply_of_error (visitArguments_of_failing _ evaluated fails reached) _
  | operand computes _ type state =>
      rcases computes with rfl | rfl <;> exact bind_apply_of_error fails _
  | @left operator noIndex _ right state =>
      cases operator with
      | arrayIndex => exact absurd rfl noIndex
      | _ => exact bind_apply_of_error fails _
  | right _ reached continues => exact visit_binary_of_failing reached continues fails
  | position list _ state => exact bind_apply_of_error fails _
  | leftBy operator _ right method state => exact bind_apply_of_error fails _
  | rightBy operator _ method reached =>
      exact (bind_apply_of_ok reached _).trans (bind_apply_of_error fails _)
  | test _ onTrue onFalse state => exact bind_apply_of_error fails _
  | constructed constructor reached =>
      exact bind_apply_of_error (visitAll_of_failing _ fails reached) _
  | allocated constructor bindings reached =>
      exact bind_apply_of_error (visitAll_of_failing _ fails reached) _
  | bound constructor reference visited makes reached =>
      exact (bind_apply_of_ok visited _).trans
        ((bind_apply_of_ok (liftM_apply_of_ok makes _) _).trans
          (visitBindings_of_failing reference _ fails reached))
  | listed constructor items reached =>
      exact bind_apply_of_error (visitAll_of_failing _ fails reached) _
  | item constructor visited makes reached =>
      exact (bind_apply_of_ok visited _).trans
        ((bind_apply_of_ok (liftM_apply_of_ok makes _) _).trans
          (bind_apply_of_error (visitAll_of_failing _ fails reached) _))
  | element elementType reached =>
      exact bind_apply_of_error (visitAll_of_failing _ fails reached) _

end Failures

/--
An evaluation that succeeds leaves an empty context.

Wherever a visit comes to an operand in isolation, the context there is the one that it
began with, beside a frame of its own if it is a member. The operand leaves this context as
it is, whether it succeeds or fails, and with an operand that fails the visit ends.
-/
theorem evaluate_leaves_clean (environment : Environment) (expression : Expr) :
    (∀ value, (expression.evaluate environment).result = .ok value →
      (expression.evaluate environment).context = {}) ∧
    ∀ start operand before, Isolates environment expression start operand before →
      ∀ result after, isolated (operand.visit environment) before = (result, after) →
        before.context = expression.operandContext start.context ∧
        after.context = before.context ∧
        ∀ error, result = .error error →
          expression.visit environment start = (.error error, after) := by
  constructor
  · intro value succeeds
    have spent := spends environment expression {} (.inl rfl) [] value
      ((expression.visit environment).run {}).2 (Prod.ext succeeds rfl)
    exact spent.eq_empty
  · intro start operand before isolates result after runs
    refine ⟨isolates.context_eq, (Detached.isolated _).context_eq runs, fun error fails => ?_⟩
    exact isolates.fails (fails ▸ runs)

end Expr
end RowBinding
