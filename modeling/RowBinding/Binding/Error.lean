import RowBinding.Conversion
import RowBinding.Row.Source
import RowBinding.Target.MemberType

/-!
# Binding errors

What can go wrong when a binder is compiled and when it is applied to a row.
Each cause names the column or the target it is about.
-/

namespace RowBinding

/-- Why a binder cannot be compiled or a row cannot be bound. -/
inductive BindError
  /-- Columns of this type cannot be read. -/
  | unsupportedColumnType (column : String) (type : DataType)
  /-- No conversion leads from the column to the member. -/
  | unsupportedConversion (column : String) (source : DataType) (target : MemberType)
  /-- A JSON member needs a column of text. -/
  | nonJsonColumnForJsonMember (column : String) (type : DataType)
  /-- A placeholder names a slot that the target does not have. -/
  | placeholderSlotOutOfRange (column : String) (slot arity : Nat)
  /-- The member of the column cannot be assigned. -/
  | missingSetter (column member : String)
  /-- A scalar target needs a column. -/
  | noColumns (target : String)
  /-- The row holds a value that the column cannot have. -/
  | columnRead (column expected found : String)
  /-- The value of the column does not convert. -/
  | conversion (column : String) (source : ValueError)
  /-- The text of the column is not a JSON document. -/
  | jsonDecode (column reason : String)
  /-- The setter of the member refused the value. -/
  | member (column reason : String)
  /-- The factory refused the values. -/
  | construct (target reason : String)
  /-- The binder that was kept makes objects of another type. -/
  | cacheTypeMismatch (fingerprint : String)
  /-- The row source did not answer. -/
  | source (error : SourceError)
  deriving DecidableEq

namespace BindError

/-- The name of a cause of failure. -/
def name : BindError → String
  | .unsupportedColumnType _ _ => "UnsupportedColumnType"
  | .unsupportedConversion _ _ _ => "UnsupportedConversion"
  | .nonJsonColumnForJsonMember _ _ => "NonJsonColumnForJsonMember"
  | .placeholderSlotOutOfRange _ _ _ => "PlaceholderSlotOutOfRange"
  | .missingSetter _ _ => "MissingSetter"
  | .noColumns _ => "NoColumns"
  | .columnRead _ _ _ => "ColumnRead"
  | .conversion _ _ => "Conversion"
  | .jsonDecode _ _ => "JsonDecode"
  | .member _ _ => "Member"
  | .construct _ _ => "Construct"
  | .cacheTypeMismatch _ => "CacheTypeMismatch"
  | .source _ => "Source"

/-- The failed conversion behind a binding error, if there is one. -/
def cause? : BindError → Option ValueError
  | .conversion _ cause => some cause
  | _ => none

/-- A text in single quotes behind the word for a column. -/
def columnLabel (column : String) : String :=
  "Column '" ++ column ++ "'"

/-- The wording of a binding error. -/
def message : BindError → String
  | .unsupportedColumnType column type =>
      columnLabel column ++ " has unsupported type " ++ type.name
  | .unsupportedConversion column origin target =>
      columnLabel column ++ ": no conversion from " ++ origin.name ++
        " to member type " ++ target.name
  | .nonJsonColumnForJsonMember column type =>
      columnLabel column ++ " of type " ++ type.name ++ " cannot feed a JSON member"
  | .placeholderSlotOutOfRange column slot arity =>
      "Placeholder column '" ++ column ++ "' names slot " ++ Text.ofNat slot ++
        " but the target has " ++ Text.ofNat arity ++ " slots"
  | .missingSetter column name =>
      "Member '" ++ name ++ "' matched by column '" ++ column ++ "' has no setter"
  | .noColumns target => "Result set has no column to bind " ++ target
  | .columnRead column expected found =>
      columnLabel column ++ ": expected a " ++ expected ++ " value but the row holds " ++
        found
  | .conversion column error => columnLabel column ++ ": " ++ error.message
  | .jsonDecode column reason =>
      columnLabel column ++ ": invalid JSON document: " ++ reason
  | .member column reason =>
      columnLabel column ++ ": member assignment failed: " ++ reason
  | .construct target reason => "Cannot construct " ++ target ++ ": " ++ reason
  | .cacheTypeMismatch fingerprint =>
      "Cached binder for " ++ fingerprint ++ " was built for another target type"
  | .source error => error.message

end BindError
end RowBinding
