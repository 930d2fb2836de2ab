import RowBinding.Binding.Binder
import RowBinding.Row.RowMap

/-!
# Materializing rows

Four shapes of reading the current result set of a source: its first row or
all of its rows, each as objects made by a binder or as plain maps. A shape
that succeeds goes on to the next result set, or closes the source behind the
last one. A shape that fails stays where the failure was found.

How binders are compiled is a parameter, with a state of its own that every
shape passes on.
-/

namespace RowBinding

/-- Steps that may fail, over a source and the state of compiling. -/
abbrev Materialize (σ : Type) :=
  ExceptT BindError (StateM (MemoryRowSource × σ))

namespace Materialize

variable {σ α : Type}

/-- Ask the source something that leaves it as it is. -/
def ask (request : MemoryRowSource → Except SourceError α) : Materialize σ α :=
  fun (source, state) => ((request source).mapError .source, (source, state))

/-- A step of the source alone. -/
def onSource (step : MemoryRowSource → Except BindError α × MemoryRowSource) :
    Materialize σ α :=
  fun (source, state) =>
    let (result, moved) := step source
    (result, (moved, state))

/-- A step of compiling alone. -/
def onState (step : StateM σ (Except BindError α)) : Materialize σ α :=
  fun (source, state) =>
    let (result, state) := step state
    (result, (source, state))

end Materialize

namespace MemoryRowSource

variable {α : Type}

/-- Read one row and bind it, if there is one. -/
def bindNext
    (bind : RowRecord → Except BindError α)
    (source : MemoryRowSource) : Except BindError (Option α) × MemoryRowSource :=
  match source.read with
  | .error error => (.error (.source error), source)
  | .ok (false, moved) => (.ok none, moved)
  | .ok (true, moved) => ((bind moved.record).map some, moved)

/-- Read and bind the rows that are left, up to the first failure. -/
def bindRest
    (bind : RowRecord → Except BindError α)
    (source : MemoryRowSource) : Except BindError (List α) × MemoryRowSource :=
  match _found : source.read with
  | .error error => (.error (.source error), source)
  | .ok (false, moved) => (.ok [], moved)
  | .ok (true, moved) =>
      match bind moved.record with
      | .error error => (.error error, moved)
      | .ok item =>
          let (items, final) := bindRest bind moved
          (items.map (item :: ·), final)
  termination_by source.rowsLeft
  decreasing_by exact rowsLeft_of_read _found

/-- Go past the current result set, or close the source behind the last one. -/
def finish (source : MemoryRowSource) : Except BindError Unit × MemoryRowSource :=
  match source.advanceOrClose with
  | .ok moved => (.ok (), moved)
  | .error error => (.error (.source error), source)

end MemoryRowSource

/-- The cells of a row under the names of their columns. -/
def RowRecord.toMap (record : RowRecord) (schema : RowSchema) :
    Except BindError RowMap :=
  schema.columns.zipIdx.foldlM (fun row indexed => do
    let (column, ordinal) := indexed
    let isNull ← (record.isNull ordinal).mapError .source
    let value ← if isNull then pure Value.null else (record.value ordinal).mapError .source
    return row.insert column.name value) {}

namespace Materialize

variable {σ τ : Type}

/-- How the binder for a schema is compiled. -/
abbrev CompileStep (σ τ : Type) :=
  RowSchema → StateM σ (Except BindError (Binder τ))

/-- Read and bind the first row of the current result set, if there is one. -/
def first (compile : CompileStep σ τ) : Materialize σ (Option τ) := do
  let schema ← ask MemoryRowSource.schema
  let found ← onSource (MemoryRowSource.bindNext fun record => .ok record)
  let item ←
    match found with
    | some record => do
        let binder ← onState (compile schema)
        some <$> (binder.bind record : Except BindError τ)
    | none => pure none
  onSource MemoryRowSource.finish
  return item

/-- Read and bind every row of the current result set, in order. -/
def list (compile : CompileStep σ τ) : Materialize σ (List τ) := do
  let schema ← ask MemoryRowSource.schema
  let binder ← onState (compile schema)
  let items ← onSource (MemoryRowSource.bindRest binder.bind)
  onSource MemoryRowSource.finish
  return items

/-- The first row of the current result set as a map, if it has columns and rows. -/
def dictionaryOne : Materialize σ (Option RowMap) := do
  let schema ← ask MemoryRowSource.schema
  let row ←
    if schema.isEmpty then pure none
    else onSource (MemoryRowSource.bindNext fun record => record.toMap schema)
  onSource MemoryRowSource.finish
  return row

/-- Every row of the current result set as a map, if it has columns. -/
def dictionaryAll : Materialize σ (List RowMap) := do
  let schema ← ask MemoryRowSource.schema
  let rows ←
    if schema.isEmpty then pure []
    else onSource (MemoryRowSource.bindRest fun record => record.toMap schema)
  onSource MemoryRowSource.finish
  return rows

end Materialize
end RowBinding
