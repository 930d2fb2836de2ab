import RowBinding.Proofs.Expression.Elements

/-!
# Array sides

An index that waits goes down the array side until a constant or a member takes
it. Where it is taken below a negation, the negation meets the element and not
the array, so an array that has no inverse can have elements that do.

Nowhere else does an index yield what the array side does not: it is strict in
its array side, unless it is taken below the negation of an array.
-/

namespace RowBinding
namespace Value

theorem indexedBy_append (value : Value) (first second : List Int) :
    value.indexedBy (first ++ second) =
      (do (← value.indexedBy first).indexedBy second) :=
  List.foldlM_append

/-- What a JSON document contains is JSON and has no inverse. -/
theorem not_logicalNot_of_json
    {indices : List Int} :
    ∀ {document : Json} {element inverse : Value},
      (Value.json document).indexedBy indices = .ok element →
        element.logicalNot ≠ .ok inverse := by
  induction indices with
  | nil =>
      intro document element inverse reaches inverts
      cases reaches
      cases inverts
  | cons index rest inductionHypothesis =>
      intro document element inverse reaches
      obtain ⟨inner, isInner, reaches⟩ := Outcome.bind_eq_ok_iff.mp reaches
      cases document with
      | array items =>
          obtain ⟨item, _, rfl⟩ := Outcome.map_eq_ok_iff.mp isInner
          exact inductionHypothesis reaches
      | _ => cases isInner

/-- Only lists and bytes have elements that a negation can be applied to. -/
theorem staticType_eq_array
    {value element inverse : Value}
    {index : Int}
    {rest : List Int}
    (reaches : value.indexedBy (index :: rest) = .ok element)
    (inverts : element.logicalNot = .ok inverse) :
    value.staticType = .array := by
  have steps := reaches
  obtain ⟨inner, isInner, reachesInner⟩ := Outcome.bind_eq_ok_iff.mp steps
  cases value with
  | list items | bytes octets => rfl
  | string text =>
      obtain ⟨letter, _, rfl⟩ := Outcome.map_eq_ok_iff.mp isInner
      cases rest with
      | nil =>
          cases reachesInner
          cases inverts
      | cons second later => cases reachesInner
  | json document => exact absurd inverts (not_logicalNot_of_json reaches)
  | _ => cases isInner

end Value

namespace Expr

open Eval

/-! ## Where an index goes -/

/-- An index that waits for an expression goes down to another one, or to itself. -/
inductive HandsDown (environment : Environment) : Expr → Expr → Prop
  | here (expression : Expr) : HandsDown environment expression expression
  | lambda
      {body inner : Expr}
      (parameters : List String)
      (down : HandsDown environment body inner) :
      HandsDown environment (.lambda parameters body) inner
  | not
      {operand inner : Expr}
      (type : StaticType)
      (down : HandsDown environment operand inner) :
      HandsDown environment (.unary .not operand type) inner
  | list
      {list inner : Expr}
      (position : Expr)
      (down : HandsDown environment list inner) :
      HandsDown environment (.binary .arrayIndex list position) inner
  | onTrue
      {test onTrue inner : Expr}
      {condition : Value}
      (onFalse : Expr)
      (isCondition : (test.evaluate environment).result = .ok condition)
      (passes : condition.truthy = .ok true)
      (down : HandsDown environment onTrue inner) :
      HandsDown environment (.conditional test onTrue onFalse) inner
  | onFalse
      {test onFalse inner : Expr}
      {condition : Value}
      (onTrue : Expr)
      (isCondition : (test.evaluate environment).result = .ok condition)
      (fails : condition.truthy = .ok false)
      (down : HandsDown environment onFalse inner) :
      HandsDown environment (.conditional test onTrue onFalse) inner

/-- An index that waits for an expression comes to a constant or a member, which takes it. -/
def TakesIndices (environment : Environment) (expression : Expr) : Prop :=
  ∃ root, expression.HandsDown environment root ∧ root.ownerKind = .chained

/-- An index that waits for an expression is taken below a negation, and by the elements of a
value that is an array as a whole. -/
def NegatesArray (environment : Environment) (expression : Expr) : Prop :=
  ∃ operand type array,
    expression.HandsDown environment (.unary .not operand type) ∧
      operand.TakesIndices environment ∧
      (operand.evaluate environment).result = .ok array ∧ array.staticType = .array

section Descent

variable {environment : Environment}

theorem NegatesArray.of_below
    {expression below : Expr}
    (descends : ∀ inner, below.HandsDown environment inner →
      expression.HandsDown environment inner)
    (negates : below.NegatesArray environment) :
    expression.NegatesArray environment := by
  obtain ⟨operand, type, array, down, negated⟩ := negates
  exact ⟨operand, type, array, descends _ down, negated⟩

theorem TakesIndices.of_below
    {expression below : Expr}
    (descends : ∀ inner, below.HandsDown environment inner →
      expression.HandsDown environment inner)
    (takes : below.TakesIndices environment) :
    expression.TakesIndices environment := by
  obtain ⟨root, down, chained⟩ := takes
  exact ⟨root, descends root down, chained⟩

/-- A negation inverts what its operand comes to, and leaves what the operand leaves. -/
theorem inContext_not
    (operand : Expr)
    (type : StaticType)
    (indices : List Int) :
    ((Expr.unary .not operand type).visit environment).inContext { pending := indices } = (do
      let (value, final) ← (operand.visit environment).inContext { pending := indices }
      return (← value.logicalNot, final)) := by
  have outcomes := inverts_visit environment operand ⟨{ pending := indices }, []⟩ rfl
  rw [visit_not, inContext, underNegation_apply, inContext]
  simp only [Bool.not_false]
  generalize operand.visit environment ⟨{ pending := indices }, []⟩ = without at outcomes
  generalize operand.visit environment (EvalState.withNegated _ true) = waiting at outcomes
  cases outcomes with
  | failed error first second => rfl
  | left value final idle =>
      simp only [EvalState.negated_withNegated, Bool.true_eq_false, if_false,
        EvalState.withNegated_withNegated, EvalState.withNegated_of_eq idle]
      cases isInverse : value.logicalNot <;> simp [forget, Except.map, isInverse]
  | taken truth final idle =>
      simp only [idle, if_true]
      rfl

theorem elementAt_not (operand : Expr) (type : StaticType) (indices : List Int) :
    (Expr.unary .not operand type).elementAt environment indices = (do
      let (value, final) ← (operand.visit environment).inContext { pending := indices }
      (← value.logicalNot).indexedBy final.pending) := by
  rw [elementAt, inContext_not, bind_assoc]
  simp only [bind_assoc, pure_bind]

/-- An expression whose branch ends in a constant or a member leaves no index. -/
theorem TakesIndices.final_eq
    {expression : Expr}
    (takes : expression.TakesIndices environment) :
    ∀ {indices value final},
      (expression.visit environment).inContext { pending := indices } = .ok (value, final) →
        final = {} := by
  obtain ⟨root, down, chained⟩ := takes
  induction down with
  | here expression =>
      intro indices value final runs
      rw [settlesTo_of_chained chained _ rfl (.inl rfl)] at runs
      obtain ⟨settled, _, same⟩ := Outcome.map_eq_ok_iff.mp runs
      cases same
      rfl
  | lambda parameters _ takesBody => exact fun runs => takesBody chained runs
  | not type _ takesOperand =>
      intro indices value final runs
      rw [inContext_not] at runs
      obtain ⟨⟨inner, final⟩, runs, rest⟩ := Outcome.bind_eq_ok_iff.mp runs
      obtain ⟨inverse, _, same⟩ := Outcome.bind_eq_ok_iff.mp rest
      cases same
      exact takesOperand chained runs
  | list position _ takesList =>
      intro indices value final runs
      have runs := (inContext_index environment _ position indices).symm.trans runs
      obtain ⟨place, _, runs⟩ := Outcome.bind_eq_ok_iff.mp runs
      obtain ⟨index, _, runs⟩ := Outcome.bind_eq_ok_iff.mp runs
      obtain ⟨⟨inner, between⟩, runs, rest⟩ := Outcome.bind_eq_ok_iff.mp runs
      obtain rfl := takesList chained runs
      cases rest
      rfl
  | onTrue onFalse isCondition passes _ takesBranch =>
      intro indices value final runs
      rw [inContext_conditional, isCondition, Outcome.ok_bind, passes] at runs
      exact takesBranch chained runs
  | onFalse onTrue isCondition fails _ takesBranch =>
      intro indices value final runs
      rw [inContext_conditional, isCondition, Outcome.ok_bind, fails] at runs
      exact takesBranch chained runs

theorem LeavesIndices.not_used
    {expression : Expr}
    {indices : List Int}
    {value : Value}
    (leaves : expression.LeavesIndices environment)
    (indexed : indices ≠ []) :
    (expression.visit environment).inContext { pending := indices } ≠ .ok (value, {}) := by
  intro runs
  rw [leaves indices] at runs
  obtain ⟨_, _, same⟩ := Outcome.map_eq_ok_iff.mp runs
  cases same
  exact indexed rfl

/-- An expression that leaves no index has come to a constant or a member. -/
theorem takesIndices_of_inContext {expression : Expr} :
    ∀ {indices value}, indices ≠ [] →
      (expression.visit environment).inContext { pending := indices } = .ok (value, {}) →
        expression.TakesIndices environment := by
  induction expression using inductionOn with
  | lambda parameters body takes =>
      exact fun indexed runs => .of_below (fun _ => .lambda parameters) (takes indexed runs)
  | constant literal type | member owner reference _ | staticMember reference =>
      exact fun _ _ => ⟨_, .here _, rfl⟩
  | unary operator operand type takes =>
      intro indices value indexed runs
      cases operator with
      | not =>
          rw [inContext_not] at runs
          obtain ⟨⟨inner, final⟩, runs, rest⟩ := Outcome.bind_eq_ok_iff.mp runs
          obtain ⟨inverse, _, same⟩ := Outcome.bind_eq_ok_iff.mp rest
          cases same
          exact .of_below (fun _ => .not type) (takes indexed runs)
      | _ => exact absurd runs ((leavesIndices_of_composed rfl).not_used indexed)
  | binary operator left right takes _ =>
      intro indices value indexed runs
      cases operator with
      | arrayIndex =>
          have runs := (inContext_index environment left right indices).symm.trans runs
          obtain ⟨place, _, runs⟩ := Outcome.bind_eq_ok_iff.mp runs
          obtain ⟨index, _, runs⟩ := Outcome.bind_eq_ok_iff.mp runs
          obtain ⟨⟨inner, between⟩, runs, rest⟩ := Outcome.bind_eq_ok_iff.mp runs
          rcases final_of_inContext runs with rfl | rfl
          · obtain ⟨element, _, same⟩ := Outcome.bind_eq_ok_iff.mp rest
            cases same
            exact absurd rfl indexed
          · exact .of_below (fun _ => .list right) (takes (List.cons_ne_nil _ _) runs)
      | _ => exact absurd runs ((leavesIndices_of_composed rfl).not_used indexed)
  | conditional test onTrue onFalse _ takesTrue takesFalse =>
      intro indices value indexed runs
      rw [inContext_conditional] at runs
      obtain ⟨condition, isCondition, runs⟩ := Outcome.bind_eq_ok_iff.mp runs
      obtain ⟨passes, isPasses, runs⟩ := Outcome.bind_eq_ok_iff.mp runs
      cases passes with
      | true =>
          exact .of_below (fun _ => .onTrue onFalse isCondition isPasses)
            (takesTrue indexed runs)
      | false =>
          exact .of_below (fun _ => .onFalse onTrue isCondition isPasses)
            (takesFalse indexed runs)
  | call receiver method arguments _ _ =>
      exact fun indexed runs =>
        absurd runs ((leavesIndices_call receiver method arguments).not_used indexed)
  | staticCall method arguments _ =>
      exact fun indexed runs =>
        absurd runs ((leavesIndices_staticCall method arguments).not_used indexed)
  | _ =>
      exact fun indexed runs =>
        absurd runs ((leavesIndices_of_composed rfl).not_used indexed)

/-! ## Strict array sides -/

/-- Under several indices, an expression comes to an element only of what it comes to under
the first of them. -/
def IsStrict (environment : Environment) (expression : Expr) : Prop :=
  ∀ first second element, expression.elementAt environment (first ++ second) = .ok element →
    ∃ value, expression.elementAt environment first = .ok value ∧
      value.indexedBy second = .ok element

theorem YieldsElements.isStrict
    {expression : Expr}
    (yields : expression.YieldsElements environment) :
    expression.IsStrict environment := by
  intro first second element reaches
  rw [yields] at reaches ⊢
  obtain ⟨value, isValue, reaches⟩ := Outcome.bind_eq_ok_iff.mp reaches
  rw [Value.indexedBy_append] at reaches
  rwa [isValue, Outcome.ok_bind, ← Outcome.bind_eq_ok_iff]

theorem IsStrict.index
    {list : Expr}
    (strict : list.IsStrict environment)
    (position : Expr) :
    (Expr.index list position).IsStrict environment := by
  intro first second element reaches
  rw [elementAt_index] at reaches ⊢
  obtain ⟨place, isPlace, reaches⟩ := Outcome.bind_eq_ok_iff.mp reaches
  obtain ⟨index, isIndex, reaches⟩ := Outcome.bind_eq_ok_iff.mp reaches
  rw [isPlace, Outcome.ok_bind, isIndex, Outcome.ok_bind]
  exact strict (index :: first) second element reaches

/-- A negation that no index is taken below leaves a value without elements. -/
theorem IsStrict.not
    {operand : Expr}
    {type : StaticType}
    (strict : operand.IsStrict environment)
    (plain : ¬ (Expr.unary .not operand type).NegatesArray environment) :
    (Expr.unary .not operand type).IsStrict environment := by
  intro first second element reaches
  by_cases noneLater : second = []
  · subst noneLater
    rw [List.append_nil] at reaches
    exact ⟨element, reaches, rfl⟩
  have indexed : first ++ second ≠ [] := by simp [noneLater]
  rw [elementAt_not] at reaches
  obtain ⟨⟨inner, final⟩, runs, reaches⟩ := Outcome.bind_eq_ok_iff.mp reaches
  obtain ⟨inverse, inverts, reaches⟩ := Outcome.bind_eq_ok_iff.mp reaches
  have noneLeft : final.pending = [] := Value.indices_eq_nil_of_logicalNot inverts reaches
  rcases final_of_inContext runs with rfl | rfl
  · exact absurd noneLeft indexed
  -- the operand took the indices, so the inverse is that of an element
  have isElement : operand.elementAt environment ([] ++ (first ++ second)) = .ok inner := by
    rw [List.nil_append, elementAt, runs]
    rfl
  obtain ⟨array, isArray, reachesInner⟩ := strict [] (first ++ second) inner isElement
  rw [elementAt_nil] at isArray
  obtain ⟨index, rest, isIndices⟩ := List.exists_cons_of_ne_nil indexed
  rw [isIndices] at reachesInner
  exact absurd ⟨operand, type, array, .here _, takesIndices_of_inContext indexed runs, isArray,
    Value.staticType_eq_array reachesInner inverts⟩ plain

/-- An expression under which no array is negated is strict. -/
theorem isStrict_of_not_negatesArray {expression : Expr} :
    ¬ expression.NegatesArray environment → expression.IsStrict environment := by
  induction expression using inductionOn with
  | lambda parameters body strict =>
      exact fun plain => strict fun negates =>
        plain (negates.of_below fun _ => .lambda parameters)
  | constant literal type | member owner reference _ | staticMember reference =>
      exact fun _ => (yieldsElements_of_chained rfl).isStrict
  | unary operator operand type strict =>
      intro plain
      cases operator with
      | not =>
          exact (strict fun negates => plain (negates.of_below fun _ => .not type)).not plain
      | _ => exact (leavesIndices_of_composed rfl).yieldsElements.isStrict
  | binary operator left right strict _ =>
      intro plain
      cases operator with
      | arrayIndex =>
          exact (strict fun negates => plain (negates.of_below fun _ => .list right)).index right
      | _ => exact (leavesIndices_of_composed rfl).yieldsElements.isStrict
  | conditional test onTrue onFalse _ strictTrue strictFalse =>
      intro plain first second element reaches
      rw [elementAt_conditional] at reaches ⊢
      obtain ⟨condition, isCondition, reaches⟩ := Outcome.bind_eq_ok_iff.mp reaches
      obtain ⟨passes, isPasses, reaches⟩ := Outcome.bind_eq_ok_iff.mp reaches
      rw [isCondition, Outcome.ok_bind, isPasses, Outcome.ok_bind]
      cases passes with
      | true =>
          exact strictTrue (fun negates => plain (negates.of_below fun _ =>
            .onTrue onFalse isCondition isPasses)) first second element reaches
      | false =>
          exact strictFalse (fun negates => plain (negates.of_below fun _ =>
            .onFalse onTrue isCondition isPasses)) first second element reaches
  | call receiver method arguments _ _ =>
      exact fun _ => (leavesIndices_call receiver method arguments).yieldsElements.isStrict
  | staticCall method arguments _ =>
      exact fun _ => (leavesIndices_staticCall method arguments).yieldsElements.isStrict
  | _ => exact fun _ => (leavesIndices_of_composed rfl).yieldsElements.isStrict

/-- Where the operand of a negation takes indices, the negation is taken of the element. -/
theorem result_evaluate_index_not
    {operand : Expr}
    (takes : operand.TakesIndices environment)
    (type : StaticType)
    (position : Expr) :
    ((Expr.index (.unary .not operand type) position).evaluate environment).result =
      ((Expr.unary .not (.index operand position) type).evaluate environment).result := by
  rw [result_evaluate_not, ← elementAt_nil, ← elementAt_nil, elementAt_index, elementAt_index,
    bind_assoc]
  refine congrArg _ (funext fun place => ?_)
  rw [bind_assoc]
  refine congrArg _ (funext fun index => ?_)
  rw [elementAt_not, elementAt]
  cases runs : (operand.visit environment).inContext { pending := [index] } with
  | error error => rfl
  | ok given =>
      obtain ⟨value, final⟩ := given
      obtain rfl := takes.final_eq runs
      exact bind_pure value.logicalNot

end Descent

/--
An index is strict in its array side, unless it is taken below the negation of an array: it
yields an element of the value of the array side, and fails where the array side does.

Where the operand of a negation takes indices, the negation is taken of the element instead.
-/
theorem evaluate_index (environment : Environment) (list position : Expr) :
    (¬ list.NegatesArray environment →
      (∀ element, ((Expr.index list position).evaluate environment).result = .ok element →
        ∃ array place index,
          (list.evaluate environment).result = .ok array ∧
            (position.evaluate environment).result = .ok place ∧
            place.intOperand = .ok index ∧ array.indexed index = .ok element) ∧
      ∀ error, (list.evaluate environment).result = .error error →
        ∃ failure,
          ((Expr.index list position).evaluate environment).result = .error failure) ∧
    ∀ operand type, operand.TakesIndices environment →
      ((Expr.index (.unary .not operand type) position).evaluate environment).result =
        ((Expr.unary .not (.index operand position) type).evaluate environment).result := by
  have yieldsElement (plain : ¬ list.NegatesArray environment) (element : Value)
      (reaches : ((Expr.index list position).evaluate environment).result = .ok element) :
      ∃ array place index,
        (list.evaluate environment).result = .ok array ∧
          (position.evaluate environment).result = .ok place ∧
          place.intOperand = .ok index ∧ array.indexed index = .ok element := by
    rw [← elementAt_nil, elementAt_index] at reaches
    obtain ⟨place, isPlace, reaches⟩ := Outcome.bind_eq_ok_iff.mp reaches
    obtain ⟨index, isIndex, reaches⟩ := Outcome.bind_eq_ok_iff.mp reaches
    obtain ⟨array, isArray, isElement⟩ :=
      isStrict_of_not_negatesArray plain [] [index] element reaches
    rw [elementAt_nil] at isArray
    exact ⟨array, place, index, isArray, isPlace, isIndex, (bind_pure _).symm.trans isElement⟩
  refine ⟨fun plain => ⟨yieldsElement plain, fun error fails => ?_⟩,
    fun operand type takes => result_evaluate_index_not takes type position⟩
  cases outcome : ((Expr.index list position).evaluate environment).result with
  | error failure => exact ⟨failure, rfl⟩
  | ok element =>
      obtain ⟨array, _, _, isArray, _⟩ := yieldsElement plain element outcome
      rw [fails] at isArray
      cases isArray

/-- The negation of a list of two flags as a whole. -/
def negatedFlags : Expr :=
  .not (.ofValue (.list [.boolean true, .boolean false]))

/-- The negation of a text, which has letters but neither it nor they have an inverse. -/
def negatedText : Expr :=
  .not (.ofValue (.string "yes"))

theorem evaluate_index_negatedText :
    (¬ negatedText.NegatesArray fieldsOnly ∧
      (negatedText.evaluate fieldsOnly).result =
        .error (.invalidCast (.typeMismatch "Boolean" "String")) ∧
      ∃ failure,
        ((Expr.index negatedText firstPosition).evaluate fieldsOnly).result =
          .error failure) ∧
    (Expr.ofValue (.list [.boolean true, .boolean false])).TakesIndices fieldsOnly ∧
      ((Expr.index negatedFlags firstPosition).evaluate fieldsOnly).result =
        ((Expr.not (.index (.ofValue (.list [.boolean true, .boolean false]))
          firstPosition)).evaluate fieldsOnly).result := by
  have noArray : ¬ negatedText.NegatesArray fieldsOnly := by
    rintro ⟨operand, type, array, down, _, isArray, isList⟩
    cases down with
    | here =>
        cases isArray
        cases isList
    | not _ below => cases below
  have fails : (negatedText.evaluate fieldsOnly).result =
      .error (.invalidCast (.typeMismatch "Boolean" "String")) := rfl
  have takes :
      (Expr.ofValue (.list [.boolean true, .boolean false])).TakesIndices fieldsOnly :=
    ⟨_, .here _, rfl⟩
  exact ⟨⟨noArray, fails,
    ((evaluate_index fieldsOnly negatedText firstPosition).1 noArray).2 _ fails⟩, takes,
    (evaluate_index fieldsOnly negatedFlags firstPosition).2 _ _ takes⟩

/-- An index rescues the negation of a list that has no inverse. -/
theorem not_evaluate_index_strict :
    ¬ ∀ (environment : Environment) (list position : Expr) (place : Value) (error : EvalError),
      (position.evaluate environment).result = .ok place →
        (place = .null ∨ ∃ number, place = .integer number) →
          (list.evaluate environment).result = .error error →
            ∃ failure,
              ((Expr.index list position).evaluate environment).result = .error failure := by
  intro strict
  obtain ⟨failure, fails⟩ := strict fieldsOnly negatedFlags firstPosition _ _ rfl
    (.inr ⟨_, rfl⟩) rfl
  have rescued : ((Expr.index negatedFlags firstPosition).evaluate fieldsOnly).result =
      .ok (.boolean false) := rfl
  rw [rescued] at fails
  cases fails

end Expr
end RowBinding
