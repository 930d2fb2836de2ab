import RowBinding.DataType
import RowBinding.Text.Digits

/-!
# Row schemas

A schema describes the columns of a result set in order. A column whose
nullability is unknown counts as nullable, and columns are looked up by name
without regard to the case of letters.
-/

namespace RowBinding

/-- One column of a result set. -/
structure ColumnDescriptor where
  name : String
  dataType : DataType
  /-- Whether the column holds nulls, if the source can tell. -/
  allowsNull : Option Bool := none
  deriving DecidableEq

namespace ColumnDescriptor

/-- Whether a null has to be expected in a column. -/
def isNullable (column : ColumnDescriptor) : Bool :=
  column.allowsNull.getD true

@[simp] theorem isNullable_unknown (name : String) (dataType : DataType) :
    isNullable ⟨name, dataType, none⟩ = true := rfl

@[simp] theorem isNullable_known
    (name : String)
    (dataType : DataType)
    (allowsNull : Bool) :
    isNullable ⟨name, dataType, some allowsNull⟩ = allowsNull := rfl

end ColumnDescriptor

/-- The columns of a result set in order. -/
structure RowSchema where
  columns : List ColumnDescriptor := []
  deriving DecidableEq

namespace RowSchema

/-- Number of columns. -/
def size (schema : RowSchema) : Nat :=
  schema.columns.length

/-- Whether there is no column. -/
def isEmpty (schema : RowSchema) : Bool :=
  schema.columns.isEmpty

/-- The position of the first column with a name. -/
def ordinal? (schema : RowSchema) (name : String) : Option Nat :=
  schema.columns.findIdx? fun column => Text.equalIgnoringCase column.name name

end RowSchema
end RowBinding
