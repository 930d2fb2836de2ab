import Mathlib.Data.List.Basic
import Mathlib.Data.List.Induction
import RowBinding.Proofs.Expression.Elements
import RowBinding.Proofs.Expression.Visits

/-!
# The order of frames

Frames wait only where a link of a chain is visited, and no index waits beside
them. Each of the frames is that of one of the visits before, the latest first,
and has the indices that waited there. The indices are those of the array
accesses before, the latest first too.

At the root of a chain the frames are replayed in that order. So a chain of
members, each with indices behind it, comes to what is read and indexed from its
root, one access after another.
-/

namespace RowBinding

open Eval

/-! ## The visits before a visit -/

/-- The visits of an evaluation that lead to one of them, the latest first. -/
inductive Trail (environment : Environment) (expression : Expr) : List Visit → Prop
  | start : Trail environment expression [⟨expression, {}⟩]
  | step
      {visit next : Visit}
      {earlier : List Visit}
      (trail : Trail environment expression (visit :: earlier))
      (makes : visit.Makes environment next) :
      Trail environment expression (next :: visit :: earlier)

namespace Visit

/-- Whether an element of an array is visited. -/
def isIndex (visit : Visit) : Bool :=
  match visit.expression with
  | .binary .arrayIndex _ _ => true
  | _ => false

variable {environment : Environment}

/-- The frames and the indices that wait for a visit are those of the visits before it. -/
structure Ordered (environment : Environment) (visit : Visit) (earlier : List Visit) : Prop where
  chained : visit.context.frames ≠ [] →
    visit.expression.ownerKind = .chained ∧ visit.context.pending = []
  frames : ∀ depth frame, visit.context.frames[depth]? = some frame →
    ∃ caller owner, earlier[depth]? = some caller ∧
      caller.expression = .member owner frame.member ∧
        frame.indices = caller.context.pending ∧
          caller.context.frames = visit.context.frames.drop (depth + 1)
  pending : ∀ depth index, visit.context.pending[depth]? = some index →
    ∃ caller list position place, (earlier.filter isIndex)[depth]? = some caller ∧
      caller.expression = .binary .arrayIndex list position ∧
        (position.evaluate environment).result = .ok place ∧ place.intOperand = .ok index ∧
          caller.context.pending = visit.context.pending.drop (depth + 1)

theorem ordered_of_empty
    {visit : Visit}
    (isEmpty : visit.context = {})
    (earlier : List Visit) :
    visit.Ordered environment earlier := by
  constructor <;> rw [isEmpty] <;> simp

/-- No frame waits for a visit of anything but a link. -/
theorem Ordered.frames_eq_nil
    {visit : Visit}
    {earlier : List Visit}
    (ordered : visit.Ordered environment earlier)
    (noLink : visit.expression.ownerKind ≠ .chained) :
    visit.context.frames = [] := by
  by_contra framesWait
  exact noLink (ordered.chained framesWait).1

/-- A visit whose frames and indices are those of the visit before keeps them in order. -/
theorem Ordered.of_same
    {visit next : Visit}
    {earlier : List Visit}
    (ordered : visit.Ordered environment earlier)
    (noLink : visit.expression.ownerKind ≠ .chained)
    (noIndex : visit.isIndex = false)
    (sameFrames : next.context.frames = visit.context.frames)
    (samePending : next.context.pending = visit.context.pending) :
    next.Ordered environment (visit :: earlier) := by
  have noFrames := sameFrames.trans (ordered.frames_eq_nil noLink)
  constructor
  · exact fun framesWait => absurd noFrames framesWait
  · simp [noFrames]
  · rw [samePending, List.filter_cons_of_neg (by simp [noIndex])]
    exact ordered.pending

/-- The owner of a link has the frame of the link first. -/
theorem Ordered.owner
    {owner : Expr}
    {reference : MemberRef}
    {state : EvalState}
    {earlier : List Visit}
    (ordered : Ordered environment ⟨.member owner reference, state⟩ earlier)
    (chained : owner.ownerKind = .chained) :
    Ordered environment ⟨owner, { state with context := pushed state.context reference }⟩
      (⟨.member owner reference, state⟩ :: earlier) := by
  constructor
  · exact fun _ => ⟨chained, rfl⟩
  · intro depth frame isFrame
    cases depth with
    | zero =>
        cases isFrame
        exact ⟨_, owner, rfl, rfl, rfl, rfl⟩
    | succ depth => exact ordered.frames depth frame isFrame
  · simp [context, pushed]

/-- The list of an index has the index first. -/
theorem Ordered.list
    {list position : Expr}
    {state before : EvalState}
    {place : Value}
    {index : Int}
    {earlier : List Visit}
    (ordered : Ordered environment ⟨.binary .arrayIndex list position, state⟩ earlier)
    (reached : Eval.isolated (position.visit environment) state = (.ok place, before))
    (isIndex : place.intOperand = .ok index) :
    Ordered environment ⟨list, before.withPending (index :: before.context.pending)⟩
      (⟨.binary .arrayIndex list position, state⟩ :: earlier) := by
  have sameContext : before.context = state.context := (Detached.isolated _).context_eq reached
  have noFrames : before.context.frames = [] :=
    (congrArg Context.frames sameContext).trans (ordered.frames_eq_nil nofun)
  rw [sameContext]
  constructor
  · exact fun framesWait => absurd noFrames framesWait
  · intro depth frame isFrame
    have isNone : before.context.frames[depth]? = some frame := isFrame
    simp [noFrames] at isNone
  · intro depth waiting isPending
    cases depth with
    | zero =>
        cases isPending
        exact ⟨_, list, position, place, rfl, rfl, Expr.result_evaluate_of_isolated reached,
          isIndex, rfl⟩
    | succ depth => exact ordered.pending depth waiting isPending

/-- A visit keeps the order for every visit that it makes. -/
theorem Ordered.step
    {visit next : Visit}
    {earlier : List Visit}
    (ordered : visit.Ordered environment earlier)
    (makes : visit.Makes environment next) :
    next.Ordered environment (visit :: earlier) := by
  cases makes with
  | isolated => exact ordered_of_empty rfl _
  | owner chained => exact ordered.owner chained
  | list list reached isIndex => exact ordered.list reached isIndex
  | negated | body => exact ordered.of_same nofun rfl rfl rfl
  | branch onTrue onFalse reached =>
      have sameContext := (Detached.isolated _).context_eq reached
      exact ordered.of_same nofun rfl (congrArg Context.frames sameContext)
        (congrArg Context.pending sameContext)

end Visit

/-- On every trail the frames and the indices are in order. -/
theorem Trail.ordered
    {environment : Environment}
    {expression : Expr}
    {visit : Visit}
    {earlier : List Visit}
    (trail : Trail environment expression (visit :: earlier)) :
    visit.Ordered environment earlier := by
  generalize isTrail : visit :: earlier = visits at trail
  induction trail generalizing visit earlier with
  | start =>
      cases isTrail
      exact Visit.ordered_of_empty rfl []
  | step trail makes inductionHypothesis =>
      cases isTrail
      exact (inductionHypothesis rfl).step makes

/-! ## Members with indices behind them -/

namespace Outcome

variable {ε α β : Type}

/-- The results of the elements of a list, where the last element comes first. -/
def mapFromLast (result : α → Except ε β) : List α → Except ε (List β)
  | [] => .ok []
  | first :: rest => do
      let later ← mapFromLast result rest
      return (← result first) :: later

theorem mapFromLast_concat (result : α → Except ε β) (front : List α) (last : α) :
    mapFromLast result (front ++ [last]) = (do
      let final ← result last
      return (← mapFromLast result front) ++ [final]) := by
  induction front with
  | nil =>
      simp only [List.nil_append, mapFromLast]
      cases result last <;> rfl
  | cons first rest inductionHypothesis =>
      rw [List.cons_append, mapFromLast, inductionHypothesis, mapFromLast]
      simp only [bind_assoc, pure_bind, List.cons_append]

end Outcome

open Outcome (mapFromLast mapFromLast_concat)

/-- An access to a member and to elements behind it. -/
structure Access where
  member : MemberRef
  /-- The positions of the elements, the one next to the member first. -/
  positions : List Expr

namespace Access

/-- An access to what an expression stands for. -/
def on (owner : Expr) (access : Access) : Expr :=
  access.positions.foldl Expr.index (.member owner access.member)

/-- The index that a position stands for. -/
def indexAt (environment : Environment) (position : Expr) : Except EvalError Int := do
  (← (position.evaluate environment).result).intOperand

/-- The frame of an access, whose positions are evaluated from the last to the first. -/
def frame (environment : Environment) (access : Access) : Except EvalError Frame := do
  return ⟨access.member, ← mapFromLast (indexAt environment) access.positions⟩

end Access

namespace Expr

open Eval

/-- A chain of accesses, the one next to the root first. -/
def accessed (root : Expr) (accesses : List Access) : Expr :=
  accesses.foldl Access.on root

variable {environment : Environment} {owner root : Expr}

/-- Indices behind an expression are applied to its value, the one next to it first. -/
theorem YieldsElements.result_evaluate_indices
    (yields : owner.YieldsElements environment)
    (positions : List Expr) :
    (positions.foldl Expr.index owner).YieldsElements environment ∧
      ((positions.foldl Expr.index owner).evaluate environment).result = (do
        let indices ← mapFromLast (Access.indexAt environment) positions
        (← (owner.evaluate environment).result).indexedBy indices) := by
  induction positions using List.reverseRecOn with
  | nil => exact ⟨yields, (bind_pure _).symm⟩
  | append_singleton front last inductionHypothesis =>
      obtain ⟨yieldsFront, isFront⟩ := inductionHypothesis
      rw [List.foldl_append, List.foldl_cons, List.foldl_nil]
      refine ⟨yieldsFront.index last, ?_⟩
      rw [yieldsFront.result_evaluate_index last, isFront, mapFromLast_concat, Access.indexAt]
      simp only [bind_assoc, pure_bind, Value.indexedBy, List.foldlM_append, List.foldlM_cons,
        List.foldlM_nil, bind_pure]

/-- An access reads its member from the value of the owner. -/
theorem result_evaluate_on
    (noInput : ∀ name, owner.ownerKind ≠ .input name)
    (access : Access) :
    ((access.on owner).evaluate environment).result = (do
      let frame ← access.frame environment
      frame.readFrom environment (← (owner.evaluate environment).result)) := by
  have yields : (Expr.member owner access.member).YieldsElements environment :=
    yieldsElements_of_chained rfl
  rw [Access.on, (yields.result_evaluate_indices access.positions).2,
    result_evaluate_member noInput, Access.frame]
  simp only [bind_assoc, pure_bind, Frame.readFrom]

theorem ownerKind_on_ne_input (owner : Expr) (access : Access) (name : String) :
    (access.on owner).ownerKind ≠ .input name := by
  unfold Access.on
  rcases List.eq_nil_or_concat' access.positions with isNil | ⟨front, last, isConcat⟩
  · rw [isNil]
    nofun
  · rw [isConcat, List.foldl_append]
    nofun

/-- A chain is the fold of its accesses over the value of the root. -/
theorem result_evaluate_accessed
    (noInput : ∀ name, root.ownerKind ≠ .input name)
    (accesses : List Access) :
    ((root.accessed accesses).evaluate environment).result = (do
      let frames ← mapFromLast (Access.frame environment) accesses
      frames.foldlM (Frame.readFrom environment) (← (root.evaluate environment).result)) := by
  induction accesses using List.reverseRecOn with
  | nil => exact (bind_pure _).symm
  | append_singleton front last inductionHypothesis =>
      have noInputFront (name : String) : (root.accessed front).ownerKind ≠ .input name := by
        rcases List.eq_nil_or_concat' front with rfl | ⟨_, access, rfl⟩
        · exact noInput name
        · rw [accessed, List.foldl_append]
          exact ownerKind_on_ne_input _ access name
      rw [accessed, List.foldl_append, List.foldl_cons, List.foldl_nil]
      refine (result_evaluate_on noInputFront last).trans ?_
      rw [inductionHypothesis, mapFromLast_concat]
      simp only [bind_assoc, pure_bind, List.foldlM_append, List.foldlM_cons, List.foldlM_nil,
        bind_pure]

/-- A chain from an input fails, once the positions in it are known. -/
theorem result_evaluate_accessed_input
    {name : String}
    (kind : root.ownerKind = .input name)
    (first : Access)
    (rest : List Access) :
    ((root.accessed (first :: rest)).evaluate environment).result = (do
      let _ ← mapFromLast (Access.frame environment) (first :: rest)
      .error (.parameterDereference first.member.name name)) := by
  have yields : (Expr.member root first.member).YieldsElements environment :=
    yieldsElements_of_chained rfl
  have fails : ((first.on root).evaluate environment).result = (do
      let _ ← first.frame environment
      .error (.parameterDereference first.member.name name)) := by
    rw [Access.on, (yields.result_evaluate_indices first.positions).2,
      (settlesTo_member_of_input kind first.member).result_evaluate, Access.frame]
    simp only [bind_assoc, pure_bind, Outcome.error_bind]
  rw [accessed, List.foldl_cons]
  refine (result_evaluate_accessed (ownerKind_on_ne_input root first) rest).trans ?_
  rw [fails, mapFromLast]
  simp only [bind_assoc, pure_bind, Outcome.error_bind]

/--
The frames of an evaluation wait in the order in which they are replayed.

Every visit of the evaluation finds what the visits before it have left, and it evaluates no
parts but those of the visits that it makes. The root of a chain replays the latest frame
first, and a link whose owner is the root itself leaves a frame of its own before that. So a
chain comes to what its accesses read and index from the value of its root, from the first
access to the last, once the positions in it are known. The input of a predicate is no root.
-/
theorem frames_in_order (environment : Environment) :
    (∀ (expression : Expr) (visit : Visit) (earlier : List Visit),
      Trail environment expression (visit :: earlier) →
        visit.Ordered environment earlier ∧
          ∀ recurse, AgreesOn environment recurse visit →
            visitBy environment recurse visit.expression visit.state =
              visit.expression.visit environment visit.state) ∧
    (∀ (root : Value) (context : Context),
      (resolveFrames environment root).inContext context =
        (context.frames.foldlM (Frame.readFrom environment) root).map fun value =>
          (value, { context with frames := [] })) ∧
    (∀ (root : Value) (reference : MemberRef) (context : Context),
      (pushFrame reference >>= fun _ => resolveFrames environment root).inContext context =
        ((⟨reference, context.pending⟩ :: context.frames).foldlM (Frame.readFrom environment)
          root).map fun value => (value, { context with frames := [], pending := [] })) ∧
    (∀ (root : Expr) (accesses : List Access), (∀ name, root.ownerKind ≠ .input name) →
      ((root.accessed accesses).evaluate environment).result = (do
        let frames ← mapFromLast (Access.frame environment) accesses
        frames.foldlM (Frame.readFrom environment) (← (root.evaluate environment).result))) ∧
    ∀ (root : Expr) (name : String) (first : Access) (rest : List Access),
      root.ownerKind = .input name →
        ((root.accessed (first :: rest)).evaluate environment).result = (do
          let _ ← mapFromLast (Access.frame environment) (first :: rest)
          .error (.parameterDereference first.member.name name)) := by
  refine ⟨fun expression visit earlier trail => ⟨trail.ordered, fun recurse agrees => ?_⟩,
    inContext_resolveFrames environment, fun root reference context => ?_,
    fun root accesses noInput => result_evaluate_accessed noInput accesses,
    fun root name first rest kind => result_evaluate_accessed_input kind first rest⟩
  · exact visitBy_eq_visit agrees
  · exact inContext_resolveFrames environment root (pushed context reference)

/-- A record whose table has two rows, of one cell each. -/
def tableHolder : Expr :=
  let row (name : String) : Value := .list [.record "Cell" [("name", .string name)]]
  .ofValue (.record "Holder"
    [("table", .record "Table" [("rows", .list [row "first", row "second"])])])

/-- The second position of a list. -/
def secondPosition : Expr :=
  .ofValue (.integer ⟨.int16, 1, by decide⟩)

/-- The name in the only cell of the second row. -/
def secondName : List Access :=
  [⟨.field "table" .record, []⟩, ⟨.field "rows" .array, [secondPosition, firstPosition]⟩,
    ⟨.field "name" .string, []⟩]

/-- The root of the rows is visited below the frames of the table and of the rows. -/
theorem frames_in_order_secondName :
    (∃ visit earlier, Trail fieldsOnly (tableHolder.accessed (secondName.take 2))
        (visit :: earlier) ∧
      visit.expression = tableHolder ∧
        visit.context.frames =
          [⟨.field "table" .record, []⟩, ⟨.field "rows" .array, [1, 0]⟩] ∧
        visit.Ordered fieldsOnly earlier) ∧
      ((tableHolder.accessed secondName).evaluate fieldsOnly).result = .ok (.string "second") ∧
      (((Expr.parameter "x" .record).accessed secondName).evaluate fieldsOnly).result =
        .error (.parameterDereference "table" "x") := by
  obtain ⟨ordered, _, _, folds, fails⟩ := frames_in_order fieldsOnly
  refine ⟨?_, ?_, ?_⟩
  · have begins : Trail fieldsOnly (tableHolder.accessed (secondName.take 2)) _ := .start
    have indexed := (begins.step (.list _ rfl rfl)).step (.list _ rfl rfl)
    have trail := (indexed.step (.owner rfl _ _)).step (.owner rfl _ _)
    exact ⟨_, _, trail, rfl, rfl, (ordered _ _ _ trail).1⟩
  · exact folds tableHolder secondName nofun
  · exact fails _ "x" _ _ rfl

end Expr
end RowBinding
