import RowBinding.Expression.Meaning
import RowBinding.Proofs.Expression.Induction
import RowBinding.Proofs.Expression.Steps
import RowBinding.Proofs.Outcome

/-!
# Evaluation agrees with meaning

Where an expression has a meaning, the evaluator arrives at it. The frames, the
pending indices and the negation that an evaluation starts with are accounted
for on the way: either all of them are applied to the meaning, or the indices
are left for the node that brought them.
-/

namespace RowBinding

/-- The element of a value that indices lead to one after another. -/
def Value.indexedBy (value : Value) (indices : List Int) : Except EvalError Value :=
  indices.foldlM Value.indexed value

/-- The value that a frame reads from an owner. -/
def Frame.readFrom
    (environment : Environment)
    (owner : Value)
    (frame : Frame) : Except EvalError Value := do
  (← frame.member.read environment.host owner).indexedBy frame.indices

/-- What the pending indices and the frames of a context make of a value. -/
def Context.settle
    (environment : Environment)
    (context : Context)
    (value : Value) : Except EvalError Value := do
  context.frames.foldlM (Frame.readFrom environment)
    (← value.indexedBy context.pending)

/-- A value before and after it meets a negation, with the negation. -/
inductive Negated : Value → Bool → Value → Bool → Prop
  | kept (value : Value) (negated : Bool) : Negated value negated value negated
  | inverted (truth : Bool) : Negated (.boolean truth) true (.boolean !truth) false

/--
What an evaluation delivers for a value, given what its context makes of it.

Indices are left behind only where no frame waits.
-/
inductive Delivers (context : Context) (value settled : Value) :
    Value → Context → Prop
  | settled
      {result : Value}
      {negated : Bool}
      (meets : Negated settled context.negated result negated) :
      Delivers context value settled result ⟨[], [], negated⟩
  | unsettled
      {result : Value}
      {negated : Bool}
      (rootless : context.frames = [])
      (meets : Negated value context.negated result negated) :
      Delivers context value settled result { context with negated := negated }

/-- What a negation can be applied to has no elements. -/
theorem Value.indices_eq_nil_of_logicalNot
    {operand value settled : Value}
    {indices : List Int}
    (inverts : operand.logicalNot = .ok value)
    (reaches : value.indexedBy indices = .ok settled) :
    indices = [] := by
  cases indices with
  | nil => rfl
  | cons index rest =>
      simp only [indexedBy, List.foldlM_cons, Outcome.bind_eq_ok_iff] at reaches
      obtain ⟨element, isElement, _⟩ := reaches
      cases operand <;> cases inverts <;> cases isElement

/-- A value that meets no negation is kept. -/
theorem Negated.eq_of_false
    {value result : Value}
    {negated : Bool}
    (meets : Negated value false result negated) :
    result = value ∧ negated = false := by
  cases meets with
  | kept => exact ⟨rfl, rfl⟩

/-- A value that has elements is kept. -/
theorem Negated.eq_of_indexed
    {value result element : Value}
    {waiting negated : Bool}
    {index : Int}
    (meets : Negated value waiting result negated)
    (isElement : value.indexed index = .ok element) :
    result = value ∧ negated = waiting := by
  cases meets with
  | kept => exact ⟨rfl, rfl⟩
  | inverted truth => cases isElement

/-- Where nothing waits but a negation, the value meets it and nothing is left. -/
theorem Delivers.meets
    {value result : Value}
    {waiting : Bool}
    {final : Context}
    (delivers : Delivers ⟨[], [], waiting⟩ value value result final) :
    ∃ negated, final = ⟨[], [], negated⟩ ∧ Negated value waiting result negated := by
  cases delivers with
  | settled meets => exact ⟨_, rfl, meets⟩
  | unsettled _ meets => exact ⟨_, rfl, meets⟩

theorem settle_pushed
    (environment : Environment)
    (context : Context)
    (member : MemberRef)
    (owner : Value) :
    (Eval.pushed context member).settle environment owner =
      (do context.settle environment (← member.read environment.host owner)) := by
  simp only [Eval.pushed, Context.settle, Value.indexedBy, Frame.readFrom,
    List.foldlM_nil, List.foldlM_cons, Outcome.pure_eq_ok, Outcome.ok_bind]
  cases member.read environment.host owner with
  | error error => rfl
  | ok value => rfl

namespace Eval

variable {environment : Environment} {settled : Value}

theorem computes_applyIndices {indices : List Int} :
    ∀ {value : Value}, value.indexedBy indices = .ok settled →
      (applyIndices indices value).Computes settled := by
  induction indices with
  | nil =>
      intro value reaches
      cases reaches
      exact computes_pure _
  | cons index rest inductionHypothesis =>
      intro value reaches
      simp only [Value.indexedBy, List.foldlM_cons, Outcome.bind_eq_ok_iff] at reaches
      obtain ⟨element, isElement, reaches⟩ := reaches
      exact (computes_liftM isElement).bind (inductionHypothesis reaches)

theorem yields_takePending
    {context : Context}
    {value : Value}
    (reaches : value.indexedBy context.pending = .ok settled) :
    (takePending value).Yields context settled { context with pending := [] } :=
  (yields_context context).bind
    ((yields_modifyContext _ context).bind (computes_applyIndices reaches _))

theorem yields_replay {frames : List Frame} :
    ∀ {value : Value} {context : Context}, context.frames = frames →
      frames.foldlM (Frame.readFrom environment) value = .ok settled →
        (replay environment frames value).Yields context settled
          { context with frames := [] } := by
  induction frames with
  | nil =>
      intro value context isFrames reads
      cases reads
      have unchanged : { context with frames := [] } = context := by
        rw [← isFrames]
      rw [unchanged]
      exact computes_pure _ context
  | cons frame rest inductionHypothesis =>
      intro value context isFrames reads
      simp only [List.foldlM_cons, Frame.readFrom, Outcome.bind_eq_ok_iff] at reads
      obtain ⟨element, ⟨member, isMember, reaches⟩, reads⟩ := reads
      have yieldsRest :
          (replay environment rest element).Yields { context with frames := rest } settled
            { context with frames := [] } :=
        inductionHypothesis rfl reads
      exact (yields_modifyContext _ context).bind
        ((computes_readMember isMember _).bind
          ((computes_applyIndices reaches _).bind yieldsRest))

theorem yields_resolveFrames
    {context : Context}
    {value : Value}
    (reads : context.frames.foldlM (Frame.readFrom environment) value = .ok settled) :
    (resolveFrames environment value).Yields context settled
      { context with frames := [] } :=
  (yields_context context).bind (yields_replay rfl reads)

theorem exists_yields_takeNegation (context : Context) (value : Value) :
    ∃ result negated,
      Negated value context.negated result negated ∧
        (takeNegation value).Yields context result
          { context with negated := negated } := by
  cases value with
  | boolean truth =>
      cases waiting : context.negated with
      | false =>
          refine ⟨_, _, .kept _ _, (yields_context context).bind ?_⟩
          rw [if_neg (by simp [waiting]), ← waiting]
          exact computes_pure _ context
      | true =>
          refine ⟨_, _, .inverted truth, (yields_context context).bind ?_⟩
          rw [if_pos waiting]
          exact (yields_modifyContext _ context).bind (computes_pure _ _)
  | _ => exact ⟨_, _, .kept _ _, computes_pure _ context⟩

theorem computes_callThrough
    {site : CallSite}
    {receiver : Option Value}
    {arguments : List Value}
    (calls : site.result environment receiver arguments = .ok settled) :
    (callThrough environment site receiver arguments).Computes settled := by
  unfold CallSite.result at calls
  unfold callThrough
  cases hooks : environment.interceptor with
  | none =>
      rw [hooks] at calls
      exact computes_invokeMethod calls
  | some interceptor =>
      rw [hooks] at calls
      refine (computes_record _).bind ?_
      cases answer : interceptor.before receiver site with
      | none =>
          simp only [answer, Outcome.bind_eq_ok_iff] at calls ⊢
          obtain ⟨result, isResult, replaced⟩ := calls
          cases replaced
          exact (computes_invokeMethod isResult).bind
            ((computes_record _).bind (computes_pure _))
      | some value =>
          simp only [answer] at calls ⊢
          cases calls
          exact (computes_pure value).bind ((computes_record _).bind (computes_pure _))

end Eval

/--
Wherever an expression has a meaning that its context can settle, the evaluator
delivers it. Frames wait only for the links of a chain, and then no index does.
-/
def Expr.Agrees (environment : Environment) (expression : Expr) : Prop :=
  ∀ value, expression.meaning environment = .ok value →
    ∀ context settled,
      context.frames = [] ∨
          context.pending = [] ∧ expression.ownerKind = .chained →
        context.settle environment value = .ok settled →
          ∃ result final,
            (expression.visit environment).Yields context result final ∧
              Delivers context value settled result final

namespace Expr

variable {environment : Environment}

/-- No frame waits for an expression that is no link of a chain. -/
theorem frames_eq_nil
    {expression : Expr}
    {context : Context}
    (computed : expression.ownerKind ≠ .chained)
    (rootless : context.frames = [] ∨
      context.pending = [] ∧ expression.ownerKind = .chained) :
    context.frames = [] := by
  rcases rootless with noFrames | ⟨_, chained⟩
  · exact noFrames
  · exact absurd chained computed

/-- In isolation, an expression on which the evaluator agrees computes its meaning. -/
theorem Agrees.isolated
    {expression : Expr}
    {value : Value}
    (agrees : expression.Agrees environment)
    (means : expression.meaning environment = .ok value) :
    (Eval.isolated (expression.visit environment)).Computes value := by
  obtain ⟨result, final, yields, delivers⟩ :=
    agrees value means {} value (.inl rfl) rfl
  obtain ⟨negated, rfl, meets⟩ := delivers.meets
  obtain ⟨rfl, rfl⟩ := meets.eq_of_false
  exact yields.isolated

/-- The evaluator agrees on an expression whose meaning it computes in every context. -/
theorem Agrees.of_computes
    {expression : Expr}
    (computed : expression.ownerKind ≠ .chained)
    (computes : ∀ value, expression.meaning environment = .ok value →
      (expression.visit environment).Computes value) :
    expression.Agrees environment := by
  intro value means context settled rootless settles
  have noFrames := frames_eq_nil computed rootless
  exact ⟨value, context, computes value means context,
    .unsettled noFrames (.kept value context.negated)⟩

theorem computes_visitAll {expressions : List Expr} :
    (∀ expression ∈ expressions, expression.Agrees environment) →
      ∀ {values : List Value}, meanings environment expressions = .ok values →
        (visitAll environment expressions).Computes values := by
  induction expressions with
  | nil =>
      intro _ values means
      cases means
      exact Eval.computes_pure []
  | cons expression rest inductionHypothesis =>
      intro agree values means
      obtain ⟨value, isValue, means⟩ := Outcome.bind_eq_ok_iff.mp means
      obtain ⟨later, isLater, means⟩ := Outcome.bind_eq_ok_iff.mp means
      cases means
      have computesHead := (agree expression List.mem_cons_self).isolated isValue
      have computesRest := inductionHypothesis
        (fun other inside => agree other (List.mem_cons_of_mem _ inside)) isLater
      exact computesHead.bind (computesRest.bind (Eval.computes_pure _))

theorem computes_visitArguments {arguments : List Expr} :
    (∀ argument ∈ arguments, argument.Agrees environment) →
      ∀ {values : List Value}, argumentMeanings environment arguments = .ok values →
        (visitArguments environment arguments).Computes values := by
  induction arguments with
  | nil =>
      intro _ values means
      cases means
      exact Eval.computes_pure []
  | cons argument rest inductionHypothesis =>
      intro agree values means
      simp only [argumentMeanings] at means
      have computesRest {values : List Value} :=
        @inductionHypothesis
          (fun other inside => agree other (List.mem_cons_of_mem _ inside)) values
      unfold visitArguments
      by_cases handedOver : argument.staticType = .expression
      · simp only [if_pos handedOver, Outcome.pure_eq_ok, Outcome.ok_bind,
          Outcome.bind_eq_ok_iff] at means ⊢
        obtain ⟨later, isLater, means⟩ := means
        cases means
        exact (Eval.computes_pure _).bind
          ((computesRest isLater).bind (Eval.computes_pure _))
      · simp only [if_neg handedOver, Outcome.bind_eq_ok_iff] at means ⊢
        obtain ⟨value, isValue, later, isLater, means⟩ := means
        cases means
        exact ((agree argument List.mem_cons_self).isolated isValue).bind
          ((computesRest isLater).bind (Eval.computes_pure _))

theorem computes_visitBindings {bindings : List (MemberRef × Expr)} :
    (∀ binding ∈ bindings, binding.2.Agrees environment) →
      ∀ {object result : Value},
        bindingsMeaning environment bindings object = .ok result →
          (visitBindings environment bindings object).Computes result := by
  induction bindings with
  | nil =>
      intro _ object result means
      cases means
      exact Eval.computes_pure object
  | cons binding rest inductionHypothesis =>
      intro agree object result means
      obtain ⟨value, isValue, means⟩ := Outcome.bind_eq_ok_iff.mp means
      obtain ⟨written, isWritten, means⟩ := Outcome.bind_eq_ok_iff.mp means
      have computesHead := (agree binding List.mem_cons_self).isolated isValue
      have computesRest := inductionHypothesis
        (fun other inside => agree other (List.mem_cons_of_mem _ inside)) means
      exact computesHead.bind
        ((Eval.computes_liftM isWritten).bind computesRest)

/-! ## Links of a chain -/

theorem exists_yields_constant
    {context : Context}
    {literal settled : Value}
    (rootless : context.frames = [] ∨ context.pending = [])
    (settles : context.settle environment literal = .ok settled) :
    ∃ result negated,
      (Eval.constant environment literal).Yields context result ⟨[], [], negated⟩ ∧
        Negated settled context.negated result negated := by
  obtain ⟨frames, pending, waiting⟩ := context
  simp only [Context.settle, Outcome.bind_eq_ok_iff] at settles
  obtain ⟨indexed, isIndexed, settles⟩ := settles
  obtain ⟨result, negated, meets, yieldsNegated⟩ :=
    Eval.exists_yields_takeNegation ⟨[], [], waiting⟩ settled
  refine ⟨result, negated, ?_, meets⟩
  rcases rootless with noFrames | noIndices
  · simp only at noFrames
    subst noFrames
    cases settles
    have readsNothing : ([] : List Frame).foldlM (Frame.readFrom environment) literal =
        .ok literal := rfl
    exact (Eval.yields_resolveFrames readsNothing).bind
      ((Eval.yields_takePending isIndexed).bind yieldsNegated)
  · simp only at noIndices
    subst noIndices
    cases isIndexed
    exact (Eval.yields_resolveFrames settles).bind
      ((Eval.yields_takePending rfl).bind yieldsNegated)

theorem agrees_constant (literal : Value) (type : StaticType) :
    (Expr.constant literal type).Agrees environment := by
  intro value means context settled rootless settles
  cases means
  have noFramesOrIndices := rootless.imp_right And.left
  obtain ⟨result, negated, yields, meets⟩ :=
    exists_yields_constant noFramesOrIndices settles
  exact ⟨result, _, yields, .settled meets⟩

theorem agrees_staticMember (reference : MemberRef) :
    (Expr.staticMember reference).Agrees environment := by
  intro value means context settled _ settles
  have settlesOwner :
      (Eval.pushed context reference).settle environment reference.placeholder =
        .ok settled := by
    rw [settle_pushed, show reference.read environment.host reference.placeholder =
      .ok value from means]
    exact settles
  obtain ⟨result, negated, yields, meets⟩ :=
    exists_yields_constant (.inr rfl) settlesOwner
  exact ⟨result, _, (Eval.yields_pushFrame reference context).bind yields,
    .settled meets⟩

theorem agrees_member
    (owner : Expr)
    (reference : MemberRef)
    (agrees : owner.Agrees environment) :
    (Expr.member owner reference).Agrees environment := by
  intro value means context settled _ settles
  unfold visit
  unfold meaning at means
  cases kind : owner.ownerKind with
  | input name =>
      rw [kind] at means
      cases means
  | chained =>
      simp only [kind, Outcome.bind_eq_ok_iff] at means
      obtain ⟨root, isRoot, reads⟩ := means
      have settlesOwner :
          (Eval.pushed context reference).settle environment root = .ok settled := by
        rw [settle_pushed, reads]
        exact settles
      obtain ⟨result, final, yields, delivers⟩ :=
        agrees root isRoot _ settled (.inr ⟨rfl, kind⟩) settlesOwner
      refine ⟨result, final, (Eval.yields_pushFrame reference context).bind yields, ?_⟩
      cases delivers with
      | settled meets => exact .settled meets
      | unsettled rootless _ => cases rootless
  | computed =>
      simp only [kind, Outcome.bind_eq_ok_iff] at means
      obtain ⟨root, isRoot, reads⟩ := means
      have settlesOwner :
          (Eval.pushed context reference).settle environment root = .ok settled := by
        rw [settle_pushed, reads]
        exact settles
      obtain ⟨result, negated, meets, yieldsNegated⟩ :=
        Eval.exists_yields_takeNegation ⟨[], [], context.negated⟩ settled
      refine ⟨result, _, (Eval.yields_pushFrame reference context).bind
        ((agrees.isolated isRoot _).bind
          ((Eval.yields_resolveFrames settlesOwner).bind yieldsNegated)),
        .settled meets⟩

/-! ## Nodes that hand their context on -/

theorem agrees_lambda
    (parameters : List String)
    (body : Expr)
    (agrees : body.Agrees environment) :
    (Expr.lambda parameters body).Agrees environment := by
  intro value means context settled rootless settles
  have noFrames := frames_eq_nil (by simp [ownerKind]) rootless
  exact agrees value means context settled (.inl noFrames) settles

theorem agrees_conditional
    (test onTrue onFalse : Expr)
    (agreesTest : test.Agrees environment)
    (agreesTrue : onTrue.Agrees environment)
    (agreesFalse : onFalse.Agrees environment) :
    (Expr.conditional test onTrue onFalse).Agrees environment := by
  intro value means context settled rootless settles
  have noFrames := frames_eq_nil (by simp [ownerKind]) rootless
  obtain ⟨condition, isCondition, means⟩ := Outcome.bind_eq_ok_iff.mp means
  obtain ⟨passes, isPasses, means⟩ := Outcome.bind_eq_ok_iff.mp means
  have yieldsTest := agreesTest.isolated isCondition context
  have yieldsPasses := Eval.computes_liftM isPasses context
  cases passes with
  | true =>
      obtain ⟨result, final, yields, delivers⟩ :=
        agreesTrue value means context settled (.inl noFrames) settles
      exact ⟨result, final, yieldsTest.bind (yieldsPasses.bind yields), delivers⟩
  | false =>
      obtain ⟨result, final, yields, delivers⟩ :=
        agreesFalse value means context settled (.inl noFrames) settles
      exact ⟨result, final, yieldsTest.bind (yieldsPasses.bind yields), delivers⟩

theorem agrees_not
    (operand : Expr)
    (type : StaticType)
    (agrees : operand.Agrees environment) :
    (Expr.unary .not operand type).Agrees environment := by
  intro value means context settled rootless settles
  have noFrames := frames_eq_nil (by simp [ownerKind]) rootless
  obtain ⟨frames, pending, waiting⟩ := context
  simp only at noFrames
  subst noFrames
  obtain ⟨inner, isInner, inverts⟩ := Outcome.bind_eq_ok_iff.mp means
  simp only [Context.settle, Outcome.bind_eq_ok_iff] at settles
  obtain ⟨indexed, isIndexed, settles⟩ := settles
  obtain rfl := Value.indices_eq_nil_of_logicalNot inverts isIndexed
  cases isIndexed
  cases settles
  obtain ⟨result, final, yields, delivers⟩ :=
    agrees inner isInner ⟨[], [], !waiting⟩ inner (.inl rfl) rfl
  obtain ⟨negated, rfl, meets⟩ := delivers.meets
  refine ⟨value, ⟨[], [], waiting⟩, ?_, .settled (.kept value waiting)⟩
  rw [visit_not]
  cases waiting with
  | true =>
      obtain ⟨rfl, rfl⟩ := meets.eq_of_false
      exact Eval.yields_underNegation_of_left ⟨[], [], true⟩ yields (by simp) inverts
  | false =>
      cases meets with
      | kept =>
          exact Eval.yields_underNegation_of_left ⟨[], [], false⟩ yields (by simp) inverts
      | inverted truth =>
          cases inverts
          exact Eval.yields_underNegation_of_taken ⟨[], [], false⟩ yields rfl

theorem agrees_arrayIndex
    (list position : Expr)
    (agreesList : list.Agrees environment)
    (agreesPosition : position.Agrees environment) :
    (Expr.binary .arrayIndex list position).Agrees environment := by
  intro value means context settled rootless settles
  have noFrames := frames_eq_nil (by simp [ownerKind]) rootless
  obtain ⟨place, isPlace, means⟩ := Outcome.bind_eq_ok_iff.mp means
  obtain ⟨index, isIndex, means⟩ := Outcome.bind_eq_ok_iff.mp means
  obtain ⟨elements, isElements, isElement⟩ := Outcome.bind_eq_ok_iff.mp means
  let indexing : Context := { context with pending := index :: context.pending }
  have settlesList : indexing.settle environment elements = .ok settled := by
    simp only [indexing, Context.settle, Value.indexedBy, List.foldlM_cons, isElement,
      Outcome.ok_bind] at settles ⊢
    exact settles
  obtain ⟨result, final, yields, delivers⟩ :=
    agreesList elements isElements indexing settled (.inl noFrames) settlesList
  rw [visit_arrayIndex]
  suffices reached : ∃ result final,
      (Eval.underIndex index (list.visit environment)).Yields context result final ∧
        Delivers context value settled result final by
    obtain ⟨result, final, yields, delivers⟩ := reached
    exact ⟨result, final, (agreesPosition.isolated isPlace context).bind
      ((Eval.computes_liftM isIndex context).bind yields), delivers⟩
  cases delivers with
  | settled meets =>
      exact ⟨result, _,
        Eval.yields_underIndex_of_taken context yields (Nat.zero_le _), .settled meets⟩
  | unsettled _ meets =>
      obtain ⟨rfl, rfl⟩ := meets.eq_of_indexed isElement
      exact ⟨value, _,
        Eval.yields_underIndex_of_left context yields rfl isElement,
        .unsettled noFrames (.kept value context.negated)⟩

/-! ## Nodes that are put together from operands -/

theorem agrees_unary
    (operator : UnaryOperator)
    (operand : Expr)
    (type : StaticType)
    (agrees : operand.Agrees environment) :
    (Expr.unary operator operand type).Agrees environment := by
  cases operator with
  | not => exact agrees_not operand type agrees
  | quote =>
      refine Agrees.of_computes (by simp [ownerKind]) fun value means => ?_
      cases means
      exact Eval.computes_pure _
  | negate | convert =>
      refine Agrees.of_computes (by simp [ownerKind]) fun value means => ?_
      obtain ⟨inner, isInner, means⟩ := Outcome.bind_eq_ok_iff.mp means
      exact (agrees.isolated isInner).bind (Eval.computes_liftM means)

theorem agrees_binary
    (operator : BinaryOperator)
    (left right : Expr)
    (agreesLeft : left.Agrees environment)
    (agreesRight : right.Agrees environment) :
    (Expr.binary operator left right).Agrees environment := by
  cases operator with
  | arrayIndex => exact agrees_arrayIndex left right agreesLeft agreesRight
  | andAlso =>
      refine Agrees.of_computes (by simp [ownerKind]) fun value means => ?_
      obtain ⟨first, isFirst, means⟩ := Outcome.bind_eq_ok_iff.mp means
      obtain ⟨passes, isPasses, means⟩ := Outcome.bind_eq_ok_iff.mp means
      refine (agreesLeft.isolated isFirst).bind
        ((Eval.computes_liftM isPasses).bind ?_)
      cases passes with
      | false =>
          cases means
          exact Eval.computes_pure _
      | true =>
          simp only [if_true, Outcome.bind_eq_ok_iff] at means
          obtain ⟨second, isSecond, truth, isTruth, means⟩ := means
          cases means
          exact (agreesRight.isolated isSecond).bind
            ((Eval.computes_liftM isTruth).bind (Eval.computes_pure _))
  | orElse =>
      refine Agrees.of_computes (by simp [ownerKind]) fun value means => ?_
      obtain ⟨first, isFirst, means⟩ := Outcome.bind_eq_ok_iff.mp means
      obtain ⟨passes, isPasses, means⟩ := Outcome.bind_eq_ok_iff.mp means
      refine (agreesLeft.isolated isFirst).bind
        ((Eval.computes_liftM isPasses).bind ?_)
      cases passes with
      | true =>
          cases means
          exact Eval.computes_pure _
      | false =>
          simp only [Bool.false_eq_true, if_false, Outcome.bind_eq_ok_iff] at means
          obtain ⟨second, isSecond, truth, isTruth, means⟩ := means
          cases means
          exact (agreesRight.isolated isSecond).bind
            ((Eval.computes_liftM isTruth).bind (Eval.computes_pure _))
  | _ =>
      refine Agrees.of_computes (by simp [ownerKind]) fun value means => ?_
      obtain ⟨first, isFirst, means⟩ := Outcome.bind_eq_ok_iff.mp means
      obtain ⟨second, isSecond, means⟩ := Outcome.bind_eq_ok_iff.mp means
      exact (agreesLeft.isolated isFirst).bind
        ((agreesRight.isolated isSecond).bind (Eval.computes_liftM means))

theorem agrees_binaryBy
    (operator : BinaryOperator)
    (left right : Expr)
    (method : MethodRef)
    (agreesLeft : left.Agrees environment)
    (agreesRight : right.Agrees environment) :
    (Expr.binaryBy operator left right method).Agrees environment := by
  refine Agrees.of_computes (by simp [ownerKind]) fun value means => ?_
  obtain ⟨first, isFirst, means⟩ := Outcome.bind_eq_ok_iff.mp means
  obtain ⟨second, isSecond, means⟩ := Outcome.bind_eq_ok_iff.mp means
  exact (agreesLeft.isolated isFirst).bind
    ((agreesRight.isolated isSecond).bind (Eval.computes_invokeMethod means))

theorem agrees_call
    (receiver : Expr)
    (method : MethodRef)
    (arguments : List Expr)
    (agreesReceiver : receiver.Agrees environment)
    (agree : ∀ argument ∈ arguments, argument.Agrees environment) :
    (Expr.call receiver method arguments).Agrees environment := by
  intro value means context settled rootless _
  have noFrames := frames_eq_nil (by simp [ownerKind]) rootless
  obtain ⟨values, areValues, means⟩ := Outcome.bind_eq_ok_iff.mp means
  obtain ⟨owner, isOwner, calls⟩ := Outcome.bind_eq_ok_iff.mp means
  obtain ⟨result, negated, meets, yieldsNegated⟩ :=
    Eval.exists_yields_takeNegation context value
  have yieldsCall := (Eval.computes_callThrough calls context).bind yieldsNegated
  exact ⟨result, _, (computes_visitArguments agree areValues context).bind
    ((agreesReceiver.isolated isOwner context).bind yieldsCall),
    .unsettled noFrames meets⟩

theorem agrees_staticCall
    (method : MethodRef)
    (arguments : List Expr)
    (agree : ∀ argument ∈ arguments, argument.Agrees environment) :
    (Expr.staticCall method arguments).Agrees environment := by
  intro value means context settled rootless _
  have noFrames := frames_eq_nil (by simp [ownerKind]) rootless
  obtain ⟨values, areValues, calls⟩ := Outcome.bind_eq_ok_iff.mp means
  obtain ⟨result, negated, meets, yieldsNegated⟩ :=
    Eval.exists_yields_takeNegation context value
  have yieldsCall := (Eval.computes_callThrough calls context).bind yieldsNegated
  exact ⟨result, _, (computes_visitArguments agree areValues context).bind yieldsCall,
    .unsettled noFrames meets⟩

theorem agrees_construct
    (constructor : ConstructorRef)
    (arguments : List Expr)
    (agree : ∀ argument ∈ arguments, argument.Agrees environment) :
    (Expr.construct constructor arguments).Agrees environment := by
  refine Agrees.of_computes (by simp [ownerKind]) fun value means => ?_
  obtain ⟨values, areValues, constructs⟩ := Outcome.bind_eq_ok_iff.mp means
  exact (computes_visitAll agree areValues).bind (Eval.computes_liftM constructs)

theorem agrees_memberInit
    (constructor : ConstructorRef)
    (arguments : List Expr)
    (bindings : List (MemberRef × Expr))
    (agree : ∀ argument ∈ arguments, argument.Agrees environment)
    (agreeBindings : ∀ binding ∈ bindings, binding.2.Agrees environment) :
    (Expr.memberInit constructor arguments bindings).Agrees environment := by
  refine Agrees.of_computes (by simp [ownerKind]) fun value means => ?_
  obtain ⟨values, areValues, means⟩ := Outcome.bind_eq_ok_iff.mp means
  obtain ⟨allocated, constructs, means⟩ := Outcome.bind_eq_ok_iff.mp means
  exact (computes_visitAll agree areValues).bind
    ((Eval.computes_liftM constructs).bind (computes_visitBindings agreeBindings means))

theorem agrees_listInit
    (constructor : ConstructorRef)
    (arguments items : List Expr)
    (agree : ∀ argument ∈ arguments, argument.Agrees environment)
    (agreeItems : ∀ item ∈ items, item.Agrees environment) :
    (Expr.listInit constructor arguments items).Agrees environment := by
  refine Agrees.of_computes (by simp [ownerKind]) fun value means => ?_
  obtain ⟨values, areValues, means⟩ := Outcome.bind_eq_ok_iff.mp means
  obtain ⟨constructed, constructs, means⟩ := Outcome.bind_eq_ok_iff.mp means
  refine (computes_visitAll agree areValues).bind
    ((Eval.computes_liftM constructs).bind ?_)
  cases constructed with
  | list earlier =>
      simp only [Outcome.bind_eq_ok_iff] at means
      obtain ⟨later, areLater, means⟩ := means
      cases means
      exact (computes_visitAll agreeItems areLater).bind (Eval.computes_pure _)
  | _ => cases means

theorem agrees_newArray
    (elementType : StaticType)
    (items : List Expr)
    (agree : ∀ item ∈ items, item.Agrees environment) :
    (Expr.newArray elementType items).Agrees environment := by
  refine Agrees.of_computes (by simp [ownerKind]) fun value means => ?_
  obtain ⟨values, areValues, means⟩ := Outcome.bind_eq_ok_iff.mp means
  cases means
  exact (computes_visitAll agree areValues).bind (Eval.computes_pure _)

theorem agrees_null
    {expression : Expr}
    (computed : expression.ownerKind ≠ .chained)
    (visits : expression.visit environment = pure .null)
    (means : expression.meaning environment = .ok .null) :
    expression.Agrees environment := by
  refine Agrees.of_computes computed fun value isValue => ?_
  rw [means] at isValue
  cases isValue
  rw [visits]
  exact Eval.computes_pure _

/-- The evaluator agrees with the meaning on every expression. -/
theorem agrees (environment : Environment) (expression : Expr) :
    expression.Agrees environment := by
  induction expression using inductionOn with
  | lambda parameters body agreesBody =>
      exact agrees_lambda parameters body agreesBody
  | parameter name type => exact agrees_null (by simp [ownerKind]) rfl rfl
  | constant literal type => exact agrees_constant literal type
  | member owner reference agreesOwner =>
      exact agrees_member owner reference agreesOwner
  | staticMember reference => exact agrees_staticMember reference
  | call receiver method arguments agreesReceiver agree =>
      exact agrees_call receiver method arguments agreesReceiver agree
  | staticCall method arguments agree =>
      exact agrees_staticCall method arguments agree
  | unary operator operand type agreesOperand =>
      exact agrees_unary operator operand type agreesOperand
  | binary operator left right agreesLeft agreesRight =>
      exact agrees_binary operator left right agreesLeft agreesRight
  | binaryBy operator left right method agreesLeft agreesRight =>
      exact agrees_binaryBy operator left right method agreesLeft agreesRight
  | conditional test onTrue onFalse agreesTest agreesTrue agreesFalse =>
      exact agrees_conditional test onTrue onFalse agreesTest agreesTrue agreesFalse
  | construct constructor arguments agree =>
      exact agrees_construct constructor arguments agree
  | memberInit constructor arguments bindings agree agreeBindings =>
      exact agrees_memberInit constructor arguments bindings agree agreeBindings
  | listInit constructor arguments items agree agreeItems =>
      exact agrees_listInit constructor arguments items agree agreeItems
  | newArray elementType items agree => exact agrees_newArray elementType items agree
  | defaultOf type => exact agrees_null (by simp [ownerKind]) rfl rfl

/-- Where an expression has a meaning, evaluation returns it. -/
theorem evaluate_of_meaning
    (environment : Environment)
    (expression : Expr)
    (value : Value)
    (means : expression.meaning environment = .ok value) :
    (expression.evaluate environment).result = .ok value := by
  obtain ⟨result, final, yields, delivers⟩ :=
    agrees environment expression value means {} value (.inl rfl) rfl
  obtain ⟨negated, rfl, meets⟩ := delivers.meets
  obtain ⟨rfl, rfl⟩ := meets.eq_of_false
  obtain ⟨later, runs⟩ := yields []
  simp only [evaluate]
  rw [show (expression.visit environment).run {} = _ from runs]

/-- The negated second flag of a record that holds a list of two flags. -/
def secondFlagUnset : Expr :=
  let flags : Value := .list [.boolean true, .boolean false]
  let holder : Expr := .ofValue (.record "Holder" [("flags", flags)])
  .not (.index (.field holder "flags" .array)
    (.ofValue (.integer ⟨.int32, 1, by decide⟩)))

/-- An environment whose host keeps no member, method or constructor. -/
def fieldsOnly : Environment where
  host :=
    { readMember := fun _ _ => .error (.invocation "member" "not kept")
      writeMember := fun _ => none
      callMethod := fun _ _ _ => .error (.invocation "method" "not kept")
      construct := fun _ _ => .error (.invocation "constructor" "not kept") }

theorem evaluate_secondFlagUnset :
    secondFlagUnset.meaning fieldsOnly = .ok (.boolean true) ∧
      (secondFlagUnset.evaluate fieldsOnly).result = .ok (.boolean true) :=
  ⟨rfl, evaluate_of_meaning fieldsOnly secondFlagUnset (.boolean true) rfl⟩

end Expr
end RowBinding
