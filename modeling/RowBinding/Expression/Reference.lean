import RowBinding.Expression.StaticType

/-!
# References to members, methods and constructors

Expressions refer to members, methods and constructors by their names and
types, and by what stands behind them: either a behaviour that every host has
in common, or a number under which the host of an evaluation keeps one of its
own.
-/

namespace RowBinding

/-- What stands behind a member. -/
inductive MemberAccess
  /-- The field of a record, or the key of a JSON object, with the member's name. -/
  | field
  /-- A member that the host keeps. -/
  | host (number : Nat)
  deriving DecidableEq

/-- A readable and perhaps writable member. -/
structure MemberRef where
  name : String
  type : StaticType
  isStatic : Bool
  access : MemberAccess
  deriving DecidableEq

/-- The member that is a field of a record or a key of a JSON object. -/
def MemberRef.field (name : String) (type : StaticType) : MemberRef :=
  ⟨name, type, false, .field⟩

/-- What stands behind a method. -/
inductive MethodBody
  /-- The zero value of the return type. -/
  | zero
  /-- A method that the host keeps. -/
  | host (number : Nat)
  deriving DecidableEq

/-- A callable method. -/
structure MethodRef where
  name : String
  declaringType : String
  returnType : StaticType
  body : MethodBody
  deriving DecidableEq

/-- What stands behind a constructor. -/
inductive ConstructorBody
  /-- An empty list, whatever the arguments. -/
  | list
  /-- A record whose fields are filled from the arguments in order. -/
  | record (fields : List String)
  /-- A constructor that the host keeps. -/
  | host (number : Nat)
  deriving DecidableEq

/-- A constructor of values. -/
structure ConstructorRef where
  typeName : String
  type : StaticType
  body : ConstructorBody
  deriving DecidableEq

namespace ConstructorRef

/-- The constructor of an empty list. -/
def list : ConstructorRef :=
  ⟨"List", .array, .list⟩

/-- The constructor of a record with the given fields. -/
def record (typeName : String) (fields : List String) : ConstructorRef :=
  ⟨typeName, .record, .record fields⟩

end ConstructorRef
end RowBinding
