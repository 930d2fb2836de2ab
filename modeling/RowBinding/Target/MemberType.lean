import RowBinding.Value.Text

/-!
# Member types

The declared type of a member of a target, with any nullable wrapper taken
off. It is one of the column types that a member can have, or a type of its
own that only JSON documents can fill.
-/

namespace RowBinding

/-- The declared type of a member. -/
inductive MemberType
  | primitive (type : DataType) (notTime : type ≠ .time)
  | custom (name : String)
  deriving DecidableEq

namespace MemberType

/-- The member type of objects, which take every value as it is. -/
def object : MemberType :=
  .primitive .object (by decide)

/-- The member type of a column type, if members can have it. -/
def ofDataType? (type : DataType) : Option MemberType :=
  if notTime : type ≠ .time then some (.primitive type notTime) else none

/-- The member type with the name of a column type. -/
def ofName? (name : String) : Option MemberType :=
  (DataType.ofName? name).bind ofDataType?

/-- The column type that a member type is, if it is one. -/
def dataType? : MemberType → Option DataType
  | .primitive type _ => some type
  | .custom _ => none

/-- The name of a member type. -/
def name : MemberType → String
  | .primitive type _ => type.name
  | .custom name => name

/-- The value that stands for nothing of a member type, or null. -/
def zeroValue : MemberType → Value
  | .primitive type _ => type.zeroValue
  | .custom _ => .null

/-- Inspected text of a member type. -/
def inspect : MemberType → String
  | .primitive type _ => type.name
  | .custom name => "Custom(" ++ Text.inspectString name ++ ")"

@[simp] theorem dataType?_object : object.dataType? = some .object := rfl

end MemberType
end RowBinding
