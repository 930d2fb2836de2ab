import RowBinding.Proofs.Expression.Elements

/-!
# Chains of accesses

Members, indices and conversions that follow one another from a root. Where the
positions of the indices are known, a chain is evaluated link by link from the
value of its root.

The input of a predicate has no value to read a member from. A member directly
on the input fails and so does everything behind it, but a conversion in
between makes a null value of the input, and the member is read from that.
-/

namespace RowBinding
namespace Expr

open Eval

/-- One access of a chain. -/
inductive Link
  | member (reference : MemberRef)
  | index (position : Expr)
  | convert (type : StaticType)

/-- The access of a link to an expression. -/
def Link.on (owner : Expr) : Link → Expr
  | .member reference => .member owner reference
  | .index position => .index owner position
  | .convert type => .convert owner type

/-- A chain of accesses, the one next to the root first. -/
def chain (root : Expr) (links : List Link) : Expr :=
  links.foldl Link.on root

variable {environment : Environment}

/-- The position of an index is known: it evaluates to null or to a 64-bit integer. -/
def Link.Resolves (environment : Environment) : Link → Prop
  | .index position =>
      ∃ place index, (position.evaluate environment).result = .ok place ∧
        place.intOperand = .ok index
  | _ => True

/-- What a link makes of the value that it is an access to. -/
def Link.follow (environment : Environment) (value : Value) : Link → Except EvalError Value
  | .member reference => reference.read environment.host value
  | .index position => do
      let index ← (← (position.evaluate environment).result).intOperand
      value.indexed index
  | .convert type => value.castTo type

/-- No access is itself the input of a predicate. -/
theorem Link.ownerKind_on_ne_input (owner : Expr) (link : Link) (name : String) :
    (link.on owner).ownerKind ≠ .input name := by
  cases link <;> exact nofun

theorem Link.yieldsElements_on
    {owner : Expr}
    (yields : owner.YieldsElements environment)
    (link : Link) :
    (link.on owner).YieldsElements environment := by
  cases link with
  | member reference => exact yieldsElements_of_chained rfl
  | index position => exact yields.index position
  | convert type => exact (leavesIndices_of_composed rfl).yieldsElements

theorem Link.result_evaluate_on
    {owner : Expr}
    {link : Link}
    (yields : owner.YieldsElements environment)
    (noInput : ∀ name, owner.ownerKind ≠ .input name)
    (resolves : link.Resolves environment) :
    ((link.on owner).evaluate environment).result =
      (do link.follow environment (← (owner.evaluate environment).result)) := by
  cases link with
  | member reference => exact result_evaluate_member noInput reference
  | index position =>
      obtain ⟨place, index, isPlace, isIndex⟩ := resolves
      refine (yields.result_evaluate_index position).trans ?_
      simp only [follow, isPlace, isIndex, Outcome.ok_bind]
  | convert type => exact result_evaluate_convert environment owner type

/-- A chain is evaluated link by link from the value of its root. -/
theorem result_evaluate_chain {links : List Link} :
    ∀ {root : Expr}, root.YieldsElements environment →
      (∀ name, root.ownerKind ≠ .input name) →
      (∀ link ∈ links, link.Resolves environment) →
        ((root.chain links).evaluate environment).result =
          (do links.foldlM (Link.follow environment) (← (root.evaluate environment).result)) := by
  induction links with
  | nil => exact fun _ _ _ => (bind_pure _).symm
  | cons link rest inductionHypothesis =>
      intro root yields noInput resolve
      refine (inductionHypothesis (link.yieldsElements_on yields)
        (link.ownerKind_on_ne_input root) fun later inside =>
          resolve later (List.mem_cons_of_mem _ inside)).trans ?_
      rw [Link.result_evaluate_on yields noInput (resolve link List.mem_cons_self), bind_assoc]
      refine congrArg _ (funext fun value => ?_)
      rw [List.foldlM_cons]

/-! ## Chains from an input -/

theorem castTo_null (type : StaticType) : Value.null.castTo type = .ok .null := by
  unfold Value.castTo
  cases type.dataType? <;> rfl

/-- However often an input is converted, it stays null. -/
theorem foldlM_follow_convert (types : List StaticType) :
    (types.map Link.convert).foldlM (Link.follow environment) Value.null = .ok .null := by
  induction types with
  | nil => rfl
  | cons type rest inductionHypothesis =>
      rw [List.map_cons, List.foldlM_cons, Link.follow, castTo_null]
      exact inductionHypothesis

/-- A chain from an input behind conversions is evaluated from null. -/
theorem result_evaluate_chain_convert
    (name : String)
    (type first : StaticType)
    (rest : List StaticType)
    {links : List Link}
    (resolve : ∀ link ∈ links, link.Resolves environment) :
    (((Expr.parameter name type).chain
        ((first :: rest).map Link.convert ++ links)).evaluate environment).result =
      links.foldlM (Link.follow environment) .null := by
  have resolveAll : ∀ link ∈ rest.map Link.convert ++ links, link.Resolves environment := by
    intro link inside
    rcases List.mem_append.mp inside with converts | follows
    · obtain ⟨_, _, rfl⟩ := List.mem_map.mp converts
      exact trivial
    · exact resolve link follows
  have yields : (Expr.convert (.parameter name type) first).YieldsElements environment :=
    (leavesIndices_of_composed rfl).yieldsElements
  refine (result_evaluate_chain yields (fun _ => nofun) resolveAll).trans ?_
  have converted :
      ((Expr.convert (.parameter name type) first).evaluate environment).result = .ok .null :=
    (result_evaluate_convert environment _ first).trans (castTo_null first)
  rw [converted, Outcome.ok_bind, List.foldlM_append, foldlM_follow_convert, Outcome.ok_bind]

/-- A chain whose first member is directly on an input fails there. -/
theorem result_evaluate_chain_member
    (name : String)
    (type : StaticType)
    (reference : MemberRef)
    {links : List Link}
    (resolve : ∀ link ∈ links, link.Resolves environment) :
    (((Expr.parameter name type).chain (.member reference :: links)).evaluate
        environment).result =
      .error (.parameterDereference reference.name name) := by
  have yields : (Expr.member (.parameter name type) reference).YieldsElements environment :=
    yieldsElements_of_chained rfl
  refine (result_evaluate_chain yields (fun _ => nofun) resolve).trans ?_
  rw [(settlesTo_member_of_input rfl reference).result_evaluate]
  rfl

/-- A chain that reads a member of an input before it comes to an index. -/
def inputChain
    (name : String)
    (type : StaticType)
    (conversions : List StaticType)
    (reference : MemberRef)
    (links : List Link) : Expr :=
  (Expr.parameter name type).chain
    (conversions.map Link.convert ++ Link.member reference :: links)

/--
A member directly on the input of a predicate is never read, whatever accesses follow.

Behind a conversion the member is read from null, and a field cannot be.
-/
theorem evaluate_inputChain
    (environment : Environment)
    (name : String)
    (type : StaticType)
    (conversions : List StaticType)
    (reference : MemberRef)
    (links : List Link)
    (resolve : ∀ link ∈ links, link.Resolves environment) :
    (conversions = [] →
      ((inputChain name type conversions reference links).evaluate environment).result =
        .error (.parameterDereference reference.name name)) ∧
    (conversions ≠ [] →
      ((inputChain name type conversions reference links).evaluate environment).result =
        (do
          let value ← reference.read environment.host .null
          links.foldlM (Link.follow environment) value)) ∧
    (conversions ≠ [] → reference.access = .field →
      ((inputChain name type conversions reference links).evaluate environment).result =
        .error (.invocation reference.name "cannot read a field of a Null value")) := by
  cases conversions with
  | nil =>
      exact ⟨fun _ => result_evaluate_chain_member name type reference resolve,
        fun converted => absurd rfl converted, fun converted => absurd rfl converted⟩
  | cons first rest =>
      have resolveAll : ∀ link ∈ Link.member reference :: links,
          link.Resolves environment := by
        intro link inside
        rcases List.mem_cons.mp inside with rfl | follows
        · exact trivial
        · exact resolve link follows
      have reads : ((inputChain name type (first :: rest) reference links).evaluate
          environment).result =
            (do
              let value ← reference.read environment.host .null
              links.foldlM (Link.follow environment) value) :=
        (result_evaluate_chain_convert name type first rest resolveAll).trans
          List.foldlM_cons
      refine ⟨nofun, fun _ => reads, fun _ isField => ?_⟩
      have fails : reference.read environment.host .null =
          .error (.invocation reference.name "cannot read a field of a Null value") := by
        rw [MemberRef.read, isField]
        rfl
      rw [reads, fails]
      rfl

/-- The name of the first of the tags of something, as a text. -/
def firstTagName : List Link :=
  [.index firstPosition, .member (.field "Name" .string), .convert .string]

theorem evaluate_inputChain_firstTagName :
    (∀ link ∈ firstTagName, link.Resolves fieldsOnly) ∧
      ((inputChain "x" .record [] (.field "Tags" .array) firstTagName).evaluate
          fieldsOnly).result =
        .error (.parameterDereference "Tags" "x") ∧
      ((inputChain "x" .record [.record, .object] (.field "Tags" .array)
          firstTagName).evaluate fieldsOnly).result =
        .error (.invocation "Tags" "cannot read a field of a Null value") := by
  have resolve : ∀ link ∈ firstTagName, link.Resolves fieldsOnly := by
    simp only [firstTagName, List.forall_mem_cons]
    exact ⟨⟨_, 0, rfl, rfl⟩, trivial, trivial, nofun⟩
  have direct := evaluate_inputChain fieldsOnly "x" .record [] (.field "Tags" .array)
    firstTagName resolve
  have converted := evaluate_inputChain fieldsOnly "x" .record [.record, .object]
    (.field "Tags" .array) firstTagName resolve
  exact ⟨resolve, direct.1 rfl, converted.2.2 (by simp) rfl⟩

/-- A conversion of the input, and an index that is no number, fail in ways of their own. -/
theorem not_evaluate_inputChain :
    ((inputChain "x" .record [.record] (.field "Name" .string) []).evaluate fieldsOnly).result =
        .error (.invocation "Name" "cannot read a field of a Null value") ∧
      ((inputChain "x" .record [] (.field "Tags" .array)
          [.index (.ofValue (.string "first"))]).evaluate fieldsOnly).result =
        .error (.invalidCast (.parse "first" "Int64")) ∧
      ¬ ∀ environment name type conversions reference links,
        (∀ position, Link.index position ∈ links →
          ∃ place, (position.evaluate environment).result = .ok place) →
        ∃ member parameter,
          ((inputChain name type conversions reference links).evaluate environment).result =
            .error (.parameterDereference member parameter) := by
  refine ⟨rfl, rfl, fun fails => ?_⟩
  obtain ⟨member, parameter, outcome⟩ :=
    fails fieldsOnly "x" .record [.record] (.field "Name" .string) [] (fun _ => nofun)
  cases outcome

end Expr
end RowBinding
