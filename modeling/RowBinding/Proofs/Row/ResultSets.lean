import RowBinding.Binding.Compiler
import RowBinding.Proofs.Outcome
import RowBinding.Proofs.Row.Cursor

/-!
# One call for each result set

A run of calls on a source, of any shapes and with any ways to compile binders.
A call that succeeds uses up one result set, and a call that fails stays within
the one that it was made on. So the calls that succeed are answered from the
result sets in turn, and a source that has none left refuses every call.
-/

namespace RowBinding
namespace Materialize

variable {σ α β : Type}

theorem bind_apply
    (step : Materialize σ α)
    (next : α → Materialize σ β)
    (reached : MemoryRowSource × σ) :
    (step >>= next) reached =
      match step reached with
      | (.ok value, moved) => next value moved
      | (.error error, moved) => (.error error, moved) := by
  change ExceptT.bindCont next (step reached).1 (step reached).2 = _
  obtain ⟨result, moved⟩ := step reached
  cases result <;> rfl

theorem ask_apply
    {request : MemoryRowSource → Except SourceError α}
    {source : MemoryRowSource}
    {value : α}
    (answered : request source = .ok value)
    (state : σ) :
    ask request (source, state) = (.ok value, (source, state)) := by
  rw [ask, answered]
  rfl

/-! ## The shapes on a result set -/

/-- A call comes to a result, and uses up its result set exactly if it succeeds. -/
structure Settles
    (call : Materialize σ α)
    (source : MemoryRowSource)
    (state : σ)
    (expected : Except BindError α) : Prop where
  result_eq : (call (source, state)).1 = expected
  past_of_ok : ∀ {answer}, expected = .ok answer →
    (call (source, state)).2.1 = source.past
  stays_of_error : ∀ {error}, expected = .error error →
    ∃ row, (call (source, state)).2.1 = source.place row ∧
      (source.place row).unread <:+ source.unread

/-- A shape: what is read by the schema of a result set, which is then finished. -/
def finishing (reads : RowSchema → Materialize σ α) : Materialize σ α := do
  let schema ← ask MemoryRowSource.schema
  let answer ← reads schema
  onSource MemoryRowSource.finish
  return answer

section Shapes

variable
  {source : MemoryRowSource}
  {resultSet : ResultSet}
  {state : σ}

theorem settles_finishing
    {reads : RowSchema → Materialize σ α}
    {schema : RowSchema}
    {expected : Except BindError α}
    (isOpen : source.isClosed = false)
    (schema_eq : source.schema = .ok schema)
    (traverses : source.Traverses
      ((reads schema (source, state)).1, (reads schema (source, state)).2.1) expected) :
    Settles (finishing reads) source state expected := by
  obtain ⟨result_eq, ⟨row, stays⟩, left⟩ := traverses
  have isRead : reads schema (source, state) =
      (expected, (source.place row, (reads schema (source, state)).2.2)) :=
    Prod.ext result_eq (Prod.ext stays rfl)
  generalize (reads schema (source, state)).2.2 = after at isRead
  have finishes : (source.place row).finish = (.ok (), source.past) :=
    MemoryRowSource.finish_of_open isOpen
  have performed : finishing reads (source, state) =
      (do
        let answer ← reads schema
        onSource MemoryRowSource.finish
        return answer : Materialize σ α) (source, state) := by
    rw [finishing, bind_apply, ask_apply schema_eq state]
  rw [bind_apply, isRead] at performed
  cases expected with
  | ok answer =>
      dsimp only at performed
      rw [bind_apply, onSource, finishes] at performed
      exact ⟨by rw [performed]; rfl, fun _ => by rw [performed]; rfl, nofun⟩
  | error error =>
      refine ⟨by rw [performed], nofun, fun fails => ⟨row, by rw [performed], ?_⟩⟩
      have isLeft := left fails
      dsimp only at stays isLeft
      rw [stays] at isLeft
      exact isLeft

/-- Read the first row, and bind it with a binder that is compiled only then. -/
def readFirst {τ : Type} (compile : CompileStep σ τ) (schema : RowSchema) :
    Materialize σ (Option τ) := do
  let found ← onSource (MemoryRowSource.bindNext fun record => .ok record)
  match found with
  | some record => do
      let binder ← onState (compile schema)
      some <$> (binder.bind record : Except BindError τ)
  | none => pure none

theorem first_eq {τ : Type} (compile : CompileStep σ τ) :
    first compile = finishing (readFirst compile) := by
  -- The shape finishes behind each branch, and `finishing` once behind both.
  refine bind_congr fun schema => ?_
  simp only [readFirst, bind_assoc]
  refine bind_congr fun found => ?_
  cases found with
  | some record => simp only [bind_assoc]
  | none => rfl

theorem readFirst_of_nil
    {τ : Type}
    (compile : CompileStep σ τ)
    (isOn : source.IsOn resultSet)
    (nothing : source.unread = []) :
    readFirst compile resultSet.schema (source, state) =
      (.ok none, (source.place none, state)) := by
  rw [readFirst, bind_apply, onSource, isOn.bindNext_of_nil nothing]
  rfl

theorem readFirst_of_cons
    {τ : Type}
    {cells : List Value}
    {later : List (List Value)}
    (compile : CompileStep σ τ)
    (isOn : source.IsOn resultSet)
    (found : source.unread = cells :: later) :
    readFirst compile resultSet.schema (source, state) =
      (some <$> ((compile resultSet.schema state).1 >>= fun binder =>
          binder.bind (.ofCells cells)),
        (source.place (some source.nextRow), (compile resultSet.schema state).2)) := by
  rw [readFirst, bind_apply, onSource, isOn.bindNext_of_cons found]
  change (onState (compile resultSet.schema) >>= fun binder =>
    some <$> (liftM (binder.bind (.ofCells cells)) : Materialize σ τ)) _ = _
  rw [bind_apply, onState]
  obtain ⟨compiled, after⟩ := compile resultSet.schema state
  cases compiled with
  | error error => rfl
  | ok binder =>
      dsimp only
      rw [Outcome.ok_bind]
      cases binder.bind (.ofCells cells) <;> rfl

theorem settles_first
    {τ : Type}
    (compile : CompileStep σ τ)
    (isOn : source.IsOn resultSet) :
    Settles (first compile) source state
      (source.unread.head?.mapM fun cells => do
        let binder ← (compile resultSet.schema state).1
        binder.bind (.ofCells cells)) := by
  rw [first_eq]
  refine settles_finishing isOn.isOpen isOn.schema_eq ?_
  cases found : source.unread with
  | nil =>
      rw [readFirst_of_nil compile isOn found]
      exact ⟨rfl, ⟨none, rfl⟩, nofun⟩
  | cons cells later =>
      rw [readFirst_of_cons compile isOn found]
      refine ⟨rfl, ⟨_, rfl⟩, fun _ => ?_⟩
      rw [isOn.unread_of_cons found, found]
      exact List.suffix_cons cells later

theorem list_eq {τ : Type} (compile : CompileStep σ τ) :
    list compile = finishing fun schema =>
      onState (compile schema) >>= fun binder =>
        onSource (MemoryRowSource.bindRest binder.bind) := by
  refine bind_congr fun schema => ?_
  simp only [bind_assoc]

theorem settles_list
    {τ : Type}
    (compile : CompileStep σ τ)
    (isOn : source.IsOn resultSet) :
    Settles (list compile) source state (do
      let binder ← (compile resultSet.schema state).1
      source.unread.mapM fun cells => binder.bind (.ofCells cells)) := by
  rw [list_eq]
  refine settles_finishing isOn.isOpen isOn.schema_eq ?_
  rw [bind_apply, onState]
  obtain ⟨compiled, after⟩ := compile resultSet.schema state
  cases compiled with
  | error error => exact source.traverses_nothing (.error error)
  | ok binder => exact isOn.traverses_bindRest binder.bind

/-- A shape that passes over result sets without columns, and traverses all others. -/
theorem settles_unlessEmpty
    {nothing : α}
    {traverse : RowSchema → MemoryRowSource → Except BindError α × MemoryRowSource}
    {expected : Except BindError α}
    (isOn : source.IsOn resultSet)
    (traverses : source.Traverses (traverse resultSet.schema source) expected) :
    Settles
      (finishing fun schema => if schema.isEmpty then pure nothing else onSource (traverse schema))
      source state
      (if resultSet.schema.isEmpty then .ok nothing else expected) := by
  refine settles_finishing isOn.isOpen isOn.schema_eq ?_
  cases resultSet.schema.isEmpty with
  | true => exact source.traverses_nothing (.ok nothing)
  | false => exact traverses

theorem dictionaryOne_eq :
    (dictionaryOne : Materialize σ _) = finishing fun schema =>
      if schema.isEmpty then pure none
      else onSource (MemoryRowSource.bindNext fun record => record.toMap schema) := by
  refine bind_congr fun schema => ?_
  dsimp only
  cases schema.isEmpty <;> rfl

theorem dictionaryAll_eq :
    (dictionaryAll : Materialize σ _) = finishing fun schema =>
      if schema.isEmpty then pure []
      else onSource (MemoryRowSource.bindRest fun record => record.toMap schema) := by
  refine bind_congr fun schema => ?_
  dsimp only
  cases schema.isEmpty <;> rfl

end Shapes

/-! ## Calls -/

/-- A call of one of the shapes, with how it compiles binders. -/
inductive Call (σ : Type) : Type 1
  | first {τ : Type} (compile : CompileStep σ τ)
  | list {τ : Type} (compile : CompileStep σ τ)
  | dictionaryOne
  | dictionaryAll

namespace Call

/-- What a call returns when it succeeds. -/
def Answer : Call σ → Type
  | @first _ τ _ => Option τ
  | @list _ τ _ => List τ
  | .dictionaryOne => Option RowMap
  | .dictionaryAll => List RowMap

/-- The call on a source, with the state of compiling. -/
def perform : (call : Call σ) → Materialize σ call.Answer
  | .first compile => Materialize.first compile
  | .list compile => Materialize.list compile
  | .dictionaryOne => Materialize.dictionaryOne
  | .dictionaryAll => Materialize.dictionaryAll

/-- What a call comes to on a result set, given the rows that are still to be read. -/
def answer (schema : RowSchema) (unread : List (List Value)) (state : σ) :
    (call : Call σ) → Except BindError call.Answer
  | .first compile =>
      unread.head?.mapM fun cells => do
        let binder ← (compile schema state).1
        binder.bind (.ofCells cells)
  | .list compile => do
      let binder ← (compile schema state).1
      unread.mapM fun cells => binder.bind (.ofCells cells)
  | .dictionaryOne =>
      if schema.isEmpty then .ok none
      else unread.head?.mapM fun cells => (RowRecord.ofCells cells).toMap schema
  | .dictionaryAll =>
      if schema.isEmpty then .ok []
      else unread.mapM fun cells => (RowRecord.ofCells cells).toMap schema

variable
  {source : MemoryRowSource}
  {resultSet : ResultSet}
  {resultSets : List ResultSet}
  {count : Nat}

theorem settles (isOn : source.IsOn resultSet) (call : Call σ) (state : σ) :
    Settles call.perform source state (call.answer resultSet.schema source.unread state) := by
  cases call with
  | first compile => exact settles_first compile isOn
  | list compile => exact settles_list compile isOn
  | dictionaryOne =>
      rw [perform, dictionaryOne_eq]
      exact settles_unlessEmpty isOn (isOn.traverses_bindNext _)
  | dictionaryAll =>
      rw [perform, dictionaryAll_eq]
      exact settles_unlessEmpty isOn (isOn.traverses_bindRest _)

/-- A closed source refuses every call. -/
theorem perform_of_closed
    (isClosed : source.isClosed = true)
    (call : Call σ)
    (state : σ) :
    call.perform (source, state) = (.error (.source .closed), (source, state)) := by
  have refuses {α : Type} (next : RowSchema → Materialize σ α) :
      (ask MemoryRowSource.schema >>= next) (source, state) =
        (.error (.source .closed), (source, state)) := by
    rw [bind_apply, ask, MemoryRowSource.schema, if_pos isClosed]
    rfl
  cases call with
  | first compile => exact refuses _
  | list compile => exact refuses _
  | dictionaryOne => exact refuses _
  | dictionaryAll => exact refuses _

/-- A source and the state of compiling after some calls, in order. -/
def after (calls : List (Call σ)) (reached : MemoryRowSource × σ) : MemoryRowSource × σ :=
  calls.foldl (fun reached call => (call.perform reached).2) reached

/-- How many of some calls succeed. -/
def successes : List (Call σ) → MemoryRowSource × σ → Nat
  | [], _ => 0
  | call :: later, reached =>
      (call.perform reached).1.isOk.toNat + successes later (call.perform reached).2

/-- A call goes past one result set if it succeeds, and past none if it fails. -/
theorem consumed_perform
    (consumed : source.Consumed resultSets count)
    (call : Call σ)
    (state : σ) :
    (call.perform (source, state)).2.1.Consumed resultSets
      (count + (call.perform (source, state)).1.isOk.toNat) := by
  cases isCurrent : resultSets[count]? with
  | none =>
      rw [call.perform_of_closed (consumed.isClosed isCurrent)]
      exact consumed
  | some resultSet =>
      have settles := call.settles (consumed.isOn isCurrent) state
      rw [settles.result_eq]
      cases result : call.answer resultSet.schema source.unread state with
      | ok answer =>
          rw [settles.past_of_ok result]
          exact consumed.past isCurrent
      | error error =>
          obtain ⟨row, stays, _⟩ := settles.stays_of_error result
          rw [stays]
          exact consumed.place row

theorem consumed_after
    (calls : List (Call σ)) :
    ∀ {count : Nat} {reached : MemoryRowSource × σ},
      reached.1.Consumed resultSets count →
        (after calls reached).1.Consumed resultSets (count + successes calls reached) := by
  induction calls with
  | nil => exact fun consumed => consumed
  | cons call later inductionHypothesis =>
      intro count reached consumed
      have goesOn := inductionHypothesis (call.consumed_perform consumed reached.2)
      rw [Nat.add_assoc] at goesOn
      exact goesOn

/-- How a source that has gone past some of its result sets meets further calls. -/
structure Serves
    (resultSets : List ResultSet)
    (count : Nat)
    (source : MemoryRowSource)
    (state : σ) : Prop where
  /-- The source has gone past as many result sets as calls have succeeded. -/
  consumed : source.Consumed resultSets count
  /-- A call is answered from the unread rows of the result set that is next. -/
  answers : ∀ {resultSet : ResultSet}, resultSets[count]? = some resultSet →
    ∀ call : Call σ, (call.perform (source, state)).1 =
      call.answer resultSet.schema source.unread state
  /-- A call that succeeds goes past one result set, to before the first row of the next. -/
  advances : ∀ (call : Call σ) {answer : call.Answer},
    (call.perform (source, state)).1 = .ok answer →
      (call.perform (source, state)).2.1.Consumed resultSets (count + 1) ∧
        (call.perform (source, state)).2.1.currentRow = none
  /-- A call that fails goes past no result set, and reads on at most. -/
  stays : ∀ (call : Call σ) {error : BindError},
    (call.perform (source, state)).1 = .error error →
      (call.perform (source, state)).2.1.Consumed resultSets count ∧
        (call.perform (source, state)).2.1.unread <:+ source.unread
  /-- A list that fails at a row stays on it, and only later rows are still to be read. -/
  stops : ∀ {τ : Type} {compile : CompileStep σ τ} {resultSet : ResultSet}
    {binder : Binder τ} {after : σ} {earlier later : List (List Value)} {cells : List Value}
    {error : BindError},
    resultSets[count]? = some resultSet →
      compile resultSet.schema state = (.ok binder, after) →
      source.unread = earlier ++ cells :: later →
      (∀ others ∈ earlier, ∃ item, binder.bind (.ofCells others) = .ok item) →
      binder.bind (.ofCells cells) = .error error →
        Materialize.list compile (source, state) =
            (.error error, (source.place (some (source.nextRow + earlier.length)), after)) ∧
          (source.place (some (source.nextRow + earlier.length))).unread = later
  /-- A source with no result set left refuses every call. -/
  refuses : resultSets[count]? = none →
    ∀ call : Call σ, call.perform (source, state) =
      (.error (.source .closed), (source, state))

theorem list_of_failing
    {τ : Type}
    {compile : CompileStep σ τ}
    {binder : Binder τ}
    {state after : σ}
    {earlier later : List (List Value)}
    {cells : List Value}
    {error : BindError}
    (isOn : source.IsOn resultSet)
    (compiles : compile resultSet.schema state = (.ok binder, after))
    (found : source.unread = earlier ++ cells :: later)
    (binds : ∀ others ∈ earlier, ∃ item, binder.bind (.ofCells others) = .ok item)
    (fails : binder.bind (.ofCells cells) = .error error) :
    Materialize.list compile (source, state) =
        (.error error, (source.place (some (source.nextRow + earlier.length)), after)) ∧
      (source.place (some (source.nextRow + earlier.length))).unread = later := by
  obtain ⟨stops, isLater⟩ := isOn.bindRest_of_failing earlier found binds fails
  refine ⟨?_, isLater⟩
  rw [Materialize.list, bind_apply, ask_apply isOn.schema_eq state]
  dsimp only
  rw [bind_apply, onState, compiles]
  dsimp only
  rw [bind_apply, onSource, stops]

theorem serves_of_consumed
    (consumed : source.Consumed resultSets count)
    (state : σ) :
    Serves resultSets count source state := by
  refine ⟨consumed, fun isCurrent call => ?_, fun call answer succeeds => ?_,
    fun call error fails => ?_, fun isCurrent compiles found binds fails => ?_,
    fun noMore call => call.perform_of_closed (consumed.isClosed noMore) state⟩
  · exact (call.settles (consumed.isOn isCurrent) state).result_eq
  · have goesPast := call.consumed_perform consumed state
    rw [succeeds] at goesPast
    refine ⟨goesPast, ?_⟩
    cases isCurrent : resultSets[count]? with
    | none =>
        rw [call.perform_of_closed (consumed.isClosed isCurrent)] at succeeds
        cases succeeds
    | some resultSet =>
        have settles := call.settles (consumed.isOn isCurrent) state
        rw [settles.past_of_ok (settles.result_eq.symm.trans succeeds)]
        exact source.currentRow_past
  · have goesNowhere := call.consumed_perform consumed state
    rw [fails] at goesNowhere
    refine ⟨goesNowhere, ?_⟩
    cases isCurrent : resultSets[count]? with
    | none => simp [call.perform_of_closed (consumed.isClosed isCurrent)]
    | some resultSet =>
        have settles := call.settles (consumed.isOn isCurrent) state
        obtain ⟨row, stays, isLeft⟩ :=
          settles.stays_of_error (settles.result_eq.symm.trans fails)
        rw [stays]
        exact isLeft
  · exact list_of_failing (consumed.isOn isCurrent) compiles found binds fails

/-- Every call of a run is met by the result set that the calls before it have left. -/
theorem serves_after
    (nonempty : resultSets ≠ [])
    (calls : List (Call σ))
    (state : σ) :
    Serves resultSets (successes calls (.ofResultSets resultSets, state))
      (after calls (.ofResultSets resultSets, state)).1
      (after calls (.ofResultSets resultSets, state)).2 := by
  have starts := MemoryRowSource.Consumed.ofResultSets nonempty
  have consumed : (after calls (.ofResultSets resultSets, state)).1.Consumed resultSets
      (0 + successes calls (.ofResultSets resultSets, state)) := consumed_after calls starts
  rw [Nat.zero_add] at consumed
  exact serves_of_consumed consumed _

/-- A target of integers. -/
def integerTarget : TargetDescriptor Value :=
  .scalar "Integer" (.primitive (.integer .int32) (by decide)) false .ok

/-- How the binder of the integers is compiled. -/
def compileIntegers : CompileStep Unit Value :=
  fun schema => pure (({} : Compiler).build "Integer" integerTarget schema)

/-- A result set of integers with a text among them, and one without columns. -/
def integerSets : List ResultSet :=
  [⟨⟨[⟨"id", .integer .int32, none⟩]⟩,
      [[.integer ⟨.int32, 5, by decide⟩], [.string "six"], [.integer ⟨.int32, 7, by decide⟩]]⟩,
    ⟨{}, [[]]⟩]

/-- A list that fails at the second of three rows goes on with the third. -/
theorem integers_resume :
    let start := (MemoryRowSource.ofResultSets integerSets, ())
    let calls := [Call.list compileIntegers]
    (Materialize.list compileIntegers start).1 =
        .error (.columnRead "id" "Int32" "String") ∧
      (Materialize.list compileIntegers (after calls start)).1 =
        .ok [.integer ⟨.int32, 7, by decide⟩] ∧
      (Materialize.list compileIntegers (after calls start)).2.1.currentSet = 1 := by
  intro start calls
  have nonempty : integerSets ≠ [] := List.cons_ne_nil _ _
  obtain ⟨binder, compiles, binds, refuses⟩ : ∃ binder,
      compileIntegers ⟨[⟨"id", .integer .int32, none⟩]⟩ () = (.ok binder, ()) ∧
        binder.bind (.ofCells [.integer ⟨.int32, 5, by decide⟩]) =
          .ok (.integer ⟨.int32, 5, by decide⟩) ∧
        binder.bind (.ofCells [.string "six"]) =
          .error (.columnRead "id" "Int32" "String") :=
    ⟨_, rfl, rfl, rfl⟩
  have isUnread : start.1.unread =
      [[.integer ⟨.int32, 5, by decide⟩]] ++ [.string "six"] ::
        [[.integer ⟨.int32, 7, by decide⟩]] := rfl
  have fails := ((serves_after nonempty [] ()).stops rfl compiles isUnread
    (fun others member => ⟨_, List.mem_singleton.mp member ▸ binds⟩) refuses).1
  have reached : after calls start = (start.1.place (some 1), ()) := congrArg Prod.snd fails
  have noSuccess : successes calls start = 0 := congrArg (fun result => result.1.isOk.toNat) fails
  have serves := serves_after nonempty calls ()
  rw [reached, noSuccess] at serves
  rw [reached]
  have succeeds := serves.answers rfl (.list compileIntegers)
  exact ⟨congrArg Prod.fst fails, succeeds, (serves.advances _ succeeds).1.currentSet_eq⟩

end Call

end Materialize
end RowBinding
