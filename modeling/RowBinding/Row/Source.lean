import RowBinding.Row.Schema
import RowBinding.Value

/-!
# Row sources

A source over result sets held in memory, read forward only. It is positioned
before the first row of a result set, on a row, or behind all result sets, and
once closed it answers nothing.

Reading past the last row leaves the position, so the next read starts over
with the first row of the same result set.
-/

namespace RowBinding

/-- Why a row source does not answer. -/
inductive SourceError
  | closed
  | notPositioned
  | noResultSet
  | ordinalOutOfRange (ordinal : Nat)
  deriving DecidableEq

/-- The wording of a failed request to a row source. -/
def SourceError.message : SourceError → String
  | .closed => "row source is closed"
  | .notPositioned => "row source is not positioned on a row"
  | .noResultSet => "no current result set"
  | .ordinalOutOfRange ordinal =>
      "column ordinal " ++ Text.ofNat ordinal ++ " is out of range"

/-- Access to the cells of the row that a source is positioned on. -/
structure RowRecord where
  isNull : Nat → Except SourceError Bool
  value : Nat → Except SourceError Value

/-- The columns and the rows of a result set. -/
structure ResultSet where
  schema : RowSchema
  rows : List (List Value)

/-- A row source over result sets in memory. -/
structure MemoryRowSource where
  resultSets : List ResultSet := []
  currentSet : Nat := 0
  currentRow : Option Nat := none
  isClosed : Bool := false
  nextResultCalls : Nat := 0

namespace MemoryRowSource

/-- The source over some result sets, before the first row of the first one. -/
def ofResultSets (resultSets : List ResultSet) : MemoryRowSource :=
  { resultSets := resultSets }

/-- The result set that is current. -/
def current? (source : MemoryRowSource) : Option ResultSet :=
  source.resultSets[source.currentSet]?

/-- The cell of the current row at a position. -/
def cell (source : MemoryRowSource) (ordinal : Nat) : Except SourceError Value :=
  if source.isClosed then .error .closed
  else
    match source.currentRow with
    | none => .error .notPositioned
    | some row =>
        match source.current? with
        | none => .error .noResultSet
        | some resultSet =>
            match resultSet.rows[row]? with
            | none => .error (.ordinalOutOfRange ordinal)
            | some cells =>
                match cells[ordinal]? with
                | none => .error (.ordinalOutOfRange ordinal)
                | some value => .ok value

/-- The cells of the current row. -/
def record (source : MemoryRowSource) : RowRecord where
  isNull ordinal := (source.cell ordinal).map Value.isNull
  value ordinal := source.cell ordinal

/-- The columns of the current result set, or none behind the last one. -/
def schema (source : MemoryRowSource) : Except SourceError RowSchema :=
  if source.isClosed then .error .closed
  else
    match source.current? with
    | some resultSet => .ok resultSet.schema
    | none => .ok {}

/-- The row that is read next. -/
def nextRow (source : MemoryRowSource) : Nat :=
  match source.currentRow with
  | some row => row + 1
  | none => 0

/-- Go to the next row, and say whether there is one. -/
def read (source : MemoryRowSource) : Except SourceError (Bool × MemoryRowSource) :=
  if source.isClosed then .error .closed
  else
    match source.current? with
    | none => .ok (false, source)
    | some resultSet =>
        if source.nextRow < resultSet.rows.length then
          .ok (true, { source with currentRow := some source.nextRow })
        else
          .ok (false, { source with currentRow := none })

/-- Go to the next result set, and say whether there is one. -/
def nextResult (source : MemoryRowSource) :
    Except SourceError (Bool × MemoryRowSource) :=
  if source.isClosed then .error .closed
  else
    let moved :=
      { source with
        nextResultCalls := source.nextResultCalls + 1
        currentRow := none }
    if source.currentSet + 1 < source.resultSets.length then
      .ok (true, { moved with currentSet := source.currentSet + 1 })
    else
      .ok (false, { moved with currentSet := source.resultSets.length })

/-- Close the source for good. -/
def close (source : MemoryRowSource) : MemoryRowSource :=
  { source with isClosed := true, currentRow := none }

/-- Go past the current result set, and close the source behind the last one. -/
def advanceOrClose (source : MemoryRowSource) : Except SourceError MemoryRowSource :=
  (source.nextResult).map fun (found, moved) => if found then moved else moved.close

/-- Number of rows of the current result set that are still to be read. -/
def rowsLeft (source : MemoryRowSource) : Nat :=
  match source.current? with
  | some resultSet => resultSet.rows.length - source.nextRow
  | none => 0

theorem rowsLeft_of_read
    {source moved : MemoryRowSource}
    (found : source.read = .ok (true, moved)) :
    moved.rowsLeft < source.rowsLeft := by
  unfold read at found
  split at found
  · cases found
  · split at found
    · cases found
    · next resultSet isCurrent =>
        split at found
        · next inside =>
            cases found
            have same :
                current? { source with currentRow := some source.nextRow } =
                  some resultSet := isCurrent
            simp only [rowsLeft, same, isCurrent]
            simp only [nextRow] at inside ⊢
            omega
        · cases found

end MemoryRowSource
end RowBinding
