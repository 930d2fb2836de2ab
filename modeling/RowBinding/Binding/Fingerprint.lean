import RowBinding.Row.Schema
import RowBinding.Target.Descriptor

/-!
# Fingerprints

The key under which a compiled binder is kept: the name of the result type,
the identity and the kind of the target, and the name, type and nullability of
every column. The name of a column is written behind its length in bytes, so
separators inside a name do not end it.
-/

namespace RowBinding

/-- The key of a target over a schema. -/
structure Fingerprint where
  text : String
  deriving DecidableEq

namespace Fingerprint

/-- The part of a key that a column contributes. -/
def columnText (column : ColumnDescriptor) : String :=
  "|" ++ Text.ofNat column.name.utf8ByteSize ++ ":" ++ column.name ++ "_" ++
    column.dataType.name ++ "_" ++ (if column.isNullable then "True" else "False")

/-- The part of a key that stands before the columns. -/
def targetText (typeName identity : String) (kind : TargetKind) (size : Nat) : String :=
  typeName ++ "|" ++ identity ++ "|" ++ kind.name ++ "_DataBindingExpBuild_" ++
    Text.ofNat size

/-- The key of a target with a named result type over a schema. -/
def of
    {τ : Type}
    (typeName : String)
    (target : TargetDescriptor τ)
    (schema : RowSchema) : Fingerprint where
  text :=
    targetText typeName target.identity target.kind schema.size ++
      String.join (schema.columns.map columnText)

end Fingerprint
end RowBinding
