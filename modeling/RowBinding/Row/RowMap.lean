import RowBinding.Value.ToJson

/-!
# Rows as maps

A row as a map from column names to values, in the order of the columns. A
repeated name keeps the place of its first column and the value of its last.
-/

namespace RowBinding

/-- The values of a row by column name, in order. -/
structure RowMap where
  entries : List (String × Value) := []

namespace RowMap

/-- Give a name a value, in place or at the end. -/
def insert (row : RowMap) (name : String) (value : Value) : RowMap :=
  ⟨Fields.set row.entries name value⟩

/-- The value of a name. -/
def get? (row : RowMap) (name : String) : Option Value :=
  Fields.get? row.entries name

/-- Number of names. -/
def size (row : RowMap) : Nat :=
  row.entries.length

/-- Whether there is no name. -/
def isEmpty (row : RowMap) : Bool :=
  row.entries.isEmpty

/-- The names in order. -/
def keys (row : RowMap) : List String :=
  Fields.names row.entries

/-- The row as a JSON object. -/
def toJson (row : RowMap) : Json :=
  .ofMembers (Value.fieldsToJson row.entries)

end RowMap
end RowBinding
