import RowBinding.Proofs.Row.ResultSets

/-!
# Shapes for one row and for all rows

A shape for one row and the shape for all rows read the same rows, though not
equally many of them. Where all rows can be read, the first of them is what the
other shape reads, and both go past the same result set. This also holds on a
source that stands behind its result sets without being closed, and for result
sets without columns.
-/

namespace RowBinding

/-! ## Sources without a current result set -/

namespace MemoryRowSource

/-- The source is open and no result set is current. -/
structure IsBehind (source : MemoryRowSource) : Prop where
  isOpen : source.isClosed = false
  noCurrent : source.current? = none

namespace IsBehind

variable
  {source : MemoryRowSource}
  {α : Type}

theorem schema_eq (isBehind : source.IsBehind) : source.schema = .ok {} := by
  rw [schema, isBehind.isOpen, isBehind.noCurrent]
  rfl

theorem unread_eq (isBehind : source.IsBehind) : source.unread = [] := by
  rw [unread, isBehind.noCurrent]

theorem read_eq (isBehind : source.IsBehind) : source.read = .ok (false, source) := by
  rw [read, isBehind.isOpen, isBehind.noCurrent]
  rfl

theorem bindNext_eq (isBehind : source.IsBehind) (bind : RowRecord → Except BindError α) :
    source.bindNext bind = (.ok none, source) := by
  rw [bindNext, isBehind.read_eq]

theorem bindRest_eq (isBehind : source.IsBehind) (bind : RowRecord → Except BindError α) :
    source.bindRest bind = (.ok [], source) := by
  rw [bindRest]
  split
  · next error failed => rw [isBehind.read_eq] at failed; cases failed
  · next moved found => rw [isBehind.read_eq] at found; cases found; rfl
  · next moved found => rw [isBehind.read_eq] at found; cases found

end IsBehind
end MemoryRowSource

namespace Materialize

variable
  {σ τ α : Type}
  {source : MemoryRowSource}

namespace Call

/-- A source behind its result sets meets every call as a result set without columns and
rows does. -/
theorem settles_of_isBehind
    (isBehind : source.IsBehind)
    (call : Call σ)
    (state : σ) :
    Settles call.perform source state (call.answer {} [] state) := by
  cases call with
  | first compile =>
      rw [perform, first_eq]
      refine settles_finishing isBehind.isOpen isBehind.schema_eq ?_
      rw [readFirst, bind_apply, onSource, isBehind.bindNext_eq]
      exact source.traverses_nothing (.ok none)
  | list compile =>
      rw [perform, list_eq]
      refine settles_finishing isBehind.isOpen isBehind.schema_eq ?_
      rw [bind_apply, onState, answer]
      obtain ⟨compiled, after⟩ := compile {} state
      cases compiled with
      | error error => exact source.traverses_nothing (.error error)
      | ok binder =>
          dsimp only
          rw [onSource, isBehind.bindRest_eq]
          exact source.traverses_nothing (.ok [])
  | dictionaryOne =>
      rw [perform, dictionaryOne_eq]
      exact settles_finishing isBehind.isOpen isBehind.schema_eq
        (source.traverses_nothing (.ok none))
  | dictionaryAll =>
      rw [perform, dictionaryAll_eq]
      exact settles_finishing isBehind.isOpen isBehind.schema_eq
        (source.traverses_nothing (.ok []))

/-- An open source meets every call with the rows that are still to be read. -/
theorem exists_settles
    (isOpen : source.isClosed = false)
    (state : σ) :
    ∃ schema, ∀ call : Call σ,
      Settles call.perform source state (call.answer schema source.unread state) := by
  cases isCurrent : source.current? with
  | some resultSet =>
      have isOn : source.IsOn resultSet := ⟨isOpen, isCurrent⟩
      exact ⟨resultSet.schema, fun call => call.settles isOn state⟩
  | none =>
      have isBehind : source.IsBehind := ⟨isOpen, isCurrent⟩
      exact ⟨{}, fun call => isBehind.unread_eq ▸ call.settles_of_isBehind isBehind state⟩

end Call

/-! ## Agreement -/

/--
A shape for one row agrees with a shape for all rows on a source.

If all rows can be read, the one shape returns the first of them, or nothing if there is none,
and leaves the source alike. If the one shape returns a row, all rows start with it, if they
can be read.
-/
structure Agree
    (one : Materialize σ (Option α))
    (all : Materialize σ (List α))
    (source : MemoryRowSource)
    (state : σ) : Prop where
  of_all : ∀ items, (all (source, state)).1 = .ok items →
    (one (source, state)).1 = .ok items.head? ∧
      (one (source, state)).2.1 = (all (source, state)).2.1
  of_one : ∀ item, (one (source, state)).1 = .ok (some item) →
    (∃ error, (all (source, state)).1 = .error error) ∨
      ∃ later, (all (source, state)).1 = .ok (item :: later)

theorem agree_of_all
    {one : Materialize σ (Option α)}
    {all : Materialize σ (List α)}
    {state : σ}
    (of_all : ∀ items, (all (source, state)).1 = .ok items →
      (one (source, state)).1 = .ok items.head? ∧
        (one (source, state)).2.1 = (all (source, state)).2.1) :
    Agree one all source state where
  of_all := of_all
  of_one item isOne := by
    cases isAll : (all (source, state)).1 with
    | error error => exact .inl ⟨error, rfl⟩
    | ok items =>
        have isFirst := (of_all items isAll).1.symm.trans isOne
        obtain ⟨later, rfl⟩ := List.head?_eq_some_iff.mp (Except.ok.inj isFirst)
        exact .inr ⟨later, rfl⟩

/-- Shapes that settle on the rows that they come to agree if the rows do. -/
theorem agree_of_settles
    {one : Materialize σ (Option α)}
    {all : Materialize σ (List α)}
    {state : σ}
    {first : Except BindError (Option α)}
    {every : Except BindError (List α)}
    (settlesOne : Settles one source state first)
    (settlesAll : Settles all source state every)
    (isFirst : ∀ items, every = .ok items → first = .ok items.head?) :
    Agree one all source state := by
  refine agree_of_all fun items isAll => ?_
  have isEvery := settlesAll.result_eq.symm.trans isAll
  have isOne := isFirst items isEvery
  exact ⟨settlesOne.result_eq.trans isOne,
    (settlesOne.past_of_ok isOne).trans (settlesAll.past_of_ok isEvery).symm⟩

/-- Where all rows are made into items, the first row is made into the first item. -/
theorem mapM_head?_of_mapM
    {ρ : Type}
    {make : ρ → Except BindError α}
    {rows : List ρ}
    {items : List α}
    (isAll : rows.mapM make = .ok items) :
    rows.head?.mapM make = .ok items.head? := by
  cases rows with
  | nil =>
      cases isAll
      rfl
  | cons row later =>
      rw [List.mapM_cons] at isAll
      obtain ⟨item, isItem, isLater⟩ := Outcome.bind_eq_ok_iff.mp isAll
      obtain ⟨others, _, isItems⟩ := Outcome.bind_eq_ok_iff.mp isLater
      cases isItems
      change some <$> make row = _
      rw [isItem]
      rfl

/-- On every source, the shapes for one row agree with those for all rows, whatever the
objects are and however binders are compiled. -/
theorem oneRow_agrees_allRows
    (compile : CompileStep σ τ)
    (source : MemoryRowSource)
    (state : σ) :
    Agree (first compile) (list compile) source state ∧
      Agree dictionaryOne dictionaryAll source state := by
  cases isClosed : source.isClosed with
  | true =>
      constructor
      · refine agree_of_all fun items isAll => ?_
        have refuses := (Call.list compile).perform_of_closed isClosed state
        exact absurd ((congrArg Prod.fst refuses).symm.trans isAll) nofun
      · refine agree_of_all fun items isAll => ?_
        have refuses := Call.dictionaryAll.perform_of_closed isClosed state
        exact absurd ((congrArg Prod.fst refuses).symm.trans isAll) nofun
  | false =>
      obtain ⟨schema, settles⟩ := Call.exists_settles isClosed state
      constructor
      · refine agree_of_settles (settles (.first compile)) (settles (.list compile))
          fun items isAll => ?_
        obtain ⟨binder, compiles, isAll⟩ := Outcome.bind_eq_ok_iff.mp isAll
        rw [Call.answer, compiles]
        exact mapM_head?_of_mapM isAll
      · refine agree_of_settles (settles .dictionaryOne) (settles .dictionaryAll)
          fun items isAll => ?_
        let makeMap (cells : List Value) := (RowRecord.ofCells cells).toMap schema
        change (if schema.isEmpty then .ok [] else source.unread.mapM makeMap) = _ at isAll
        change (if schema.isEmpty then .ok none else source.unread.head?.mapM makeMap) = _
        by_cases isEmpty : schema.isEmpty = true
        · rw [if_pos isEmpty] at isAll ⊢
          cases isAll
          rfl
        · rw [if_neg isEmpty] at isAll ⊢
          exact mapM_head?_of_mapM isAll

end Materialize
end RowBinding
