import RowBinding.Row.Materializer

/-!
# Where a source stands

A source that stands on an open result set has rows of it still to read. Reading
takes them one by one and in order, so a traversal that fails leaves behind
exactly the rows up to the one that it failed at. Finishing goes past the result
set from any of its rows.
-/

namespace RowBinding

/-- A row of some cells, without a source that it is read from. -/
def RowRecord.ofCells (cells : List Value) : RowRecord :=
  let cell (ordinal : Nat) : Except SourceError Value :=
    match cells[ordinal]? with
    | some value => .ok value
    | none => .error (.ordinalOutOfRange ordinal)
  { isNull := fun ordinal => (cell ordinal).map Value.isNull
    value := cell }

namespace MemoryRowSource

/-- The rows of the current result set that are still to be read, in order. -/
def unread (source : MemoryRowSource) : List (List Value) :=
  match source.current? with
  | some resultSet => resultSet.rows.drop source.nextRow
  | none => []

/-- The source on another row of its result set, or before the first one. -/
def place (source : MemoryRowSource) (row : Option Nat) : MemoryRowSource :=
  { source with currentRow := row }

theorem place_place (source : MemoryRowSource) (row other : Option Nat) :
    (source.place row).place other = source.place other := rfl

/-- The source before the first row of its next result set, or closed behind the last. -/
def past (source : MemoryRowSource) : MemoryRowSource :=
  let moved :=
    { source with
      currentRow := none
      nextResultCalls := source.nextResultCalls + 1 }
  if source.currentSet + 1 < source.resultSets.length then
    { moved with currentSet := source.currentSet + 1 }
  else
    { moved with
      currentSet := source.resultSets.length
      isClosed := true }

theorem currentRow_past (source : MemoryRowSource) : source.past.currentRow = none := by
  unfold past
  split <;> rfl

theorem finish_of_open
    {source : MemoryRowSource}
    (isOpen : source.isClosed = false) :
    source.finish = (.ok (), source.past) := by
  unfold finish advanceOrClose nextResult past
  rw [isOpen, if_neg Bool.false_ne_true]
  by_cases more : source.currentSet + 1 < source.resultSets.length
  · rw [if_pos more, if_pos more]
    rfl
  · rw [if_neg more, if_neg more]
    rfl

/-- The source is open, and a result set is current. -/
structure IsOn (source : MemoryRowSource) (resultSet : ResultSet) : Prop where
  isOpen : source.isClosed = false
  current : source.current? = some resultSet

/-- A traversal comes to a result, and has only read a part of the rows if it fails. -/
structure Traverses
    {α : Type}
    (source : MemoryRowSource)
    (traversal : Except BindError α × MemoryRowSource)
    (expected : Except BindError α) : Prop where
  result_eq : traversal.1 = expected
  stays : ∃ row, traversal.2 = source.place row
  left : ∀ {error}, expected = .error error → traversal.2.unread <:+ source.unread

theorem traverses_nothing
    {α : Type}
    (source : MemoryRowSource)
    (result : Except BindError α) :
    source.Traverses (result, source) result :=
  ⟨rfl, ⟨source.currentRow, rfl⟩, fun _ => List.suffix_refl _⟩

namespace IsOn

variable
  {source : MemoryRowSource}
  {resultSet : ResultSet}
  {cells : List Value}
  {later : List (List Value)}

theorem place (isOn : source.IsOn resultSet) (row : Option Nat) :
    (source.place row).IsOn resultSet :=
  ⟨isOn.isOpen, isOn.current⟩

theorem schema_eq (isOn : source.IsOn resultSet) :
    source.schema = .ok resultSet.schema := by
  rw [schema, isOn.isOpen, isOn.current]
  rfl

theorem unread_eq (isOn : source.IsOn resultSet) :
    source.unread = resultSet.rows.drop source.nextRow := by
  rw [unread, isOn.current]

theorem read_eq (isOn : source.IsOn resultSet) :
    source.read =
      if source.nextRow < resultSet.rows.length then
        .ok (true, source.place (some source.nextRow))
      else .ok (false, source.place none) := by
  rw [read, if_neg (Bool.eq_false_iff.mp isOn.isOpen), isOn.current]
  rfl

/-! ## Reading one row -/

theorem read_of_nil
    (isOn : source.IsOn resultSet)
    (nothing : source.unread = []) :
    source.read = .ok (false, source.place none) := by
  rw [isOn.unread_eq, List.drop_eq_nil_iff] at nothing
  rw [isOn.read_eq, if_neg (Nat.not_lt.mpr nothing)]

theorem getElem?_of_cons
    (isOn : source.IsOn resultSet)
    (found : source.unread = cells :: later) :
    resultSet.rows[source.nextRow]? = some cells := by
  rw [isOn.unread_eq] at found
  rw [← List.head?_drop, found]
  rfl

theorem read_of_cons
    (isOn : source.IsOn resultSet)
    (found : source.unread = cells :: later) :
    source.read = .ok (true, source.place (some source.nextRow)) := by
  obtain ⟨inside, _⟩ := List.getElem?_eq_some_iff.mp (isOn.getElem?_of_cons found)
  rw [isOn.read_eq, if_pos inside]

theorem unread_of_cons
    (isOn : source.IsOn resultSet)
    (found : source.unread = cells :: later) :
    (source.place (some source.nextRow)).unread = later := by
  rw [isOn.unread_eq] at found
  rw [(isOn.place _).unread_eq]
  change resultSet.rows.drop (source.nextRow + 1) = later
  rw [← List.tail_drop, found, List.tail_cons]

theorem record_of_cons
    (isOn : source.IsOn resultSet)
    (found : source.unread = cells :: later) :
    (source.place (some source.nextRow)).record = .ofCells cells := by
  have isCell (ordinal : Nat) :
      (source.place (some source.nextRow)).cell ordinal =
        (RowRecord.ofCells cells).value ordinal := by
    have notClosed : (source.place (some source.nextRow)).isClosed = false := isOn.isOpen
    have same : (source.place (some source.nextRow)).current? = some resultSet := isOn.current
    rw [cell, notClosed, same]
    simp only [MemoryRowSource.place, isOn.getElem?_of_cons found, RowRecord.ofCells]
    cases cells[ordinal]? <;> rfl
  simp only [record, isCell]
  rfl

/-! ## Binding rows -/

variable {α : Type} {bind : RowRecord → Except BindError α}

theorem bindNext_of_nil
    (isOn : source.IsOn resultSet)
    (nothing : source.unread = []) :
    source.bindNext bind = (.ok none, source.place none) := by
  rw [bindNext, isOn.read_of_nil nothing]

theorem bindNext_of_cons
    (isOn : source.IsOn resultSet)
    (found : source.unread = cells :: later) :
    source.bindNext bind =
      ((bind (.ofCells cells)).map some, source.place (some source.nextRow)) := by
  rw [bindNext, isOn.read_of_cons found]
  dsimp only
  rw [isOn.record_of_cons found]

theorem bindRest_of_nil
    (isOn : source.IsOn resultSet)
    (nothing : source.unread = []) :
    source.bindRest bind = (.ok [], source.place none) := by
  rw [bindRest]
  split
  · next error failed => rw [isOn.read_of_nil nothing] at failed; cases failed
  · next moved found => rw [isOn.read_of_nil nothing] at found; cases found; rfl
  · next moved found => rw [isOn.read_of_nil nothing] at found; cases found

theorem bindRest_of_cons
    (isOn : source.IsOn resultSet)
    (found : source.unread = cells :: later) :
    source.bindRest bind =
      match bind (.ofCells cells) with
      | .error error => (.error error, source.place (some source.nextRow))
      | .ok item =>
          let (items, final) := (source.place (some source.nextRow)).bindRest bind
          (items.map (item :: ·), final) := by
  rw [bindRest, ← isOn.record_of_cons found]
  split
  · next error failed => rw [isOn.read_of_cons found] at failed; cases failed
  · next moved isRead => rw [isOn.read_of_cons found] at isRead; cases isRead
  · next moved isRead =>
      rw [isOn.read_of_cons found] at isRead
      cases isRead
      rfl

/-- The first of the unread rows is bound, if there is one. -/
theorem traverses_bindNext
    (isOn : source.IsOn resultSet)
    (bind : RowRecord → Except BindError α) :
    source.Traverses (source.bindNext bind)
      (source.unread.head?.mapM fun cells => bind (.ofCells cells)) := by
  cases found : source.unread with
  | nil =>
      rw [isOn.bindNext_of_nil found]
      exact ⟨rfl, ⟨none, rfl⟩, nofun⟩
  | cons cells later =>
      rw [isOn.bindNext_of_cons found]
      refine ⟨?_, ⟨_, rfl⟩, fun _ => ?_⟩
      · change (bind (.ofCells cells)).map some = some <$> bind (.ofCells cells)
        rfl
      · rw [isOn.unread_of_cons found, found]
        exact List.suffix_cons cells later

/-- The unread rows are bound in order, up to the first failure. -/
theorem traverses_bindRest
    (isOn : source.IsOn resultSet)
    (bind : RowRecord → Except BindError α) :
    source.Traverses (source.bindRest bind)
      (source.unread.mapM fun cells => bind (.ofCells cells)) := by
  -- The rows that are left are what the traversal recurses on, and the source moves along.
  generalize isUnread : source.unread = unread
  induction unread generalizing source with
  | nil =>
      rw [isOn.bindRest_of_nil isUnread]
      exact ⟨rfl, ⟨none, rfl⟩, nofun⟩
  | cons cells later inductionHypothesis =>
      have isLater := isOn.unread_of_cons isUnread
      rw [isOn.bindRest_of_cons isUnread, List.mapM_cons]
      cases bind (.ofCells cells) with
      | error error =>
          refine ⟨rfl, ⟨_, rfl⟩, fun _ => ?_⟩
          rw [isLater, isUnread]
          exact List.suffix_cons cells later
      | ok item =>
          obtain ⟨result_eq, ⟨row, stays⟩, left⟩ :=
            inductionHypothesis (isOn.place _) isLater
          cases rest : later.mapM fun cells => bind (.ofCells cells) with
          | ok items =>
              rw [rest] at result_eq
              refine ⟨?_, ⟨row, stays⟩, nofun⟩
              dsimp only
              rw [result_eq]
              rfl
          | error error =>
              have isLeft := left rest
              rw [rest] at result_eq
              refine ⟨?_, ⟨row, stays⟩, fun _ => ?_⟩
              · dsimp only
                rw [result_eq]
                rfl
              · rw [isUnread]
                exact isLeft.trans (isLater ▸ List.suffix_cons cells later)

/-- A failing row is the last one that is read. -/
theorem bindRest_of_failing
    {error : BindError}
    (isOn : source.IsOn resultSet)
    (earlier : List (List Value))
    (found : source.unread = earlier ++ cells :: later)
    (binds : ∀ others ∈ earlier, ∃ item, bind (.ofCells others) = .ok item)
    (fails : bind (.ofCells cells) = .error error) :
    source.bindRest bind =
        (.error error, source.place (some (source.nextRow + earlier.length))) ∧
      (source.place (some (source.nextRow + earlier.length))).unread = later := by
  induction earlier generalizing source with
  | nil =>
      rw [isOn.bindRest_of_cons found, fails]
      exact ⟨rfl, isOn.unread_of_cons found⟩
  | cons first rest inductionHypothesis =>
      obtain ⟨item, isItem⟩ := binds first List.mem_cons_self
      have ⟨stops, isLater⟩ := inductionHypothesis (isOn.place (some source.nextRow))
        (isOn.unread_of_cons found)
        fun others member => binds others (List.mem_cons_of_mem _ member)
      have nextRow_eq : (source.place (some source.nextRow)).nextRow + rest.length =
          source.nextRow + (first :: rest).length := by
        rw [List.length_cons]
        change source.nextRow + 1 + rest.length = _
        omega
      rw [place_place, nextRow_eq] at stops isLater
      rw [isOn.bindRest_of_cons found, isItem]
      dsimp only
      rw [stops]
      exact ⟨rfl, isLater⟩

end IsOn

/-! ## Result sets gone past -/

/-- The source has gone past some of its result sets, and is closed behind the last. -/
structure Consumed
    (resultSets : List ResultSet)
    (count : Nat)
    (source : MemoryRowSource) : Prop where
  resultSets_eq : source.resultSets = resultSets
  currentSet_eq : source.currentSet = count
  nextResultCalls_eq : source.nextResultCalls = count
  isClosed_iff : source.isClosed = true ↔ count = resultSets.length
  count_le : count ≤ resultSets.length

namespace Consumed

variable
  {resultSets : List ResultSet}
  {resultSet : ResultSet}
  {count : Nat}
  {source : MemoryRowSource}

theorem ofResultSets (nonempty : resultSets ≠ []) :
    (MemoryRowSource.ofResultSets resultSets).Consumed resultSets 0 where
  resultSets_eq := rfl
  currentSet_eq := rfl
  nextResultCalls_eq := rfl
  isClosed_iff := ⟨nofun, fun none => absurd (List.length_eq_zero_iff.mp none.symm) nonempty⟩
  count_le := Nat.zero_le _

theorem isOn
    (consumed : source.Consumed resultSets count)
    (isCurrent : resultSets[count]? = some resultSet) :
    source.IsOn resultSet := by
  obtain ⟨inside, _⟩ := List.getElem?_eq_some_iff.mp isCurrent
  constructor
  · rw [Bool.eq_false_iff, ne_eq, consumed.isClosed_iff]
    exact Nat.ne_of_lt inside
  · rw [current?, consumed.resultSets_eq, consumed.currentSet_eq, isCurrent]

theorem isClosed
    (consumed : source.Consumed resultSets count)
    (noMore : resultSets[count]? = none) :
    source.isClosed = true := by
  rw [consumed.isClosed_iff]
  exact Nat.le_antisymm consumed.count_le (List.getElem?_eq_none_iff.mp noMore)

theorem place (consumed : source.Consumed resultSets count) (row : Option Nat) :
    (source.place row).Consumed resultSets count :=
  { consumed with }

theorem past
    (consumed : source.Consumed resultSets count)
    (isCurrent : resultSets[count]? = some resultSet) :
    source.past.Consumed resultSets (count + 1) := by
  obtain ⟨inside, _⟩ := List.getElem?_eq_some_iff.mp isCurrent
  have isOpen := (consumed.isOn isCurrent).isOpen
  unfold MemoryRowSource.past
  rw [consumed.currentSet_eq, consumed.resultSets_eq, consumed.nextResultCalls_eq]
  by_cases more : count + 1 < resultSets.length
  · rw [if_pos more]
    refine ⟨rfl, rfl, rfl, ?_, inside⟩
    simp only [isOpen]
    exact ⟨nofun, fun last => absurd more (Nat.not_lt.mpr (Nat.le_of_eq last.symm))⟩
  · have last : resultSets.length = count + 1 :=
      Nat.le_antisymm (Nat.not_lt.mp more) inside
    rw [if_neg more]
    exact ⟨rfl, last, rfl, ⟨fun _ => last.symm, fun _ => rfl⟩, inside⟩

end Consumed
end MemoryRowSource
end RowBinding
