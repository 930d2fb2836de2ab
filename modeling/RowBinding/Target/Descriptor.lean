import RowBinding.Target.BoundType
import RowBinding.Target.MemberType

/-!
# Binding targets

A target says how an object is made from a row. It is allocated and then gets
each matched member assigned, or one constructor call takes the values of its
slots in order, or the first column becomes the object.

Members are found by name: a member with exactly the name of a column wins over
the first one whose name differs only in the case of letters.
-/

namespace RowBinding

/-- How a value is assigned to a member; a failure gives the reason. -/
abbrev Setter (τ : Type) :=
  τ → Value → Except String τ

/-- An assignable member or a constructor slot of a target. -/
structure MemberDescriptor (τ : Type) where
  name : String
  declaredType : MemberType
  isNullable : Bool := false
  isJson : Bool := false
  isSlot : Bool := false
  setter : Option (Setter τ) := none

namespace MemberDescriptor

variable {τ : Type}

/-- A member whose setter receives values in a type. -/
def assign
    (name : String)
    (declaredType : MemberType)
    (boundType : BoundType)
    (set : τ → Value → τ) : MemberDescriptor τ where
  name := name
  declaredType := declaredType
  setter := some fun target value =>
    match boundType.receive value with
    | .ok received => .ok (set target received)
    | .error error => .error error.message

/-- The value that stands for a null column. -/
def zeroValue (member : MemberDescriptor τ) : Value :=
  if member.isNullable then .null else member.declaredType.zeroValue

/-- Inspected text of a member. -/
def inspect (member : MemberDescriptor τ) : String :=
  Text.inspectFields "MemberDescriptor"
    [("name", Text.inspectString member.name),
      ("declared_type", member.declaredType.inspect),
      ("is_nullable_wrapper", Text.inspectBool member.isNullable),
      ("is_json_encoded", Text.inspectBool member.isJson),
      ("is_positional_slot", Text.inspectBool member.isSlot),
      ("has_setter", Text.inspectBool member.setter.isSome)]

end MemberDescriptor

/-- The ways to make an object from a row. -/
inductive TargetKind
  | members
  | positional
  | scalar
  deriving DecidableEq

namespace TargetKind

/-- The name of a kind of target in keys. -/
def name : TargetKind → String
  | .members => "members"
  | .positional => "positional"
  | .scalar => "scalar"

/-- Inspected text of a kind of target. -/
def inspect : TargetKind → String
  | .members => "Members"
  | .positional => "Positional"
  | .scalar => "Scalar"

end TargetKind

/-- What makes an object; a failure gives the reason. -/
inductive TargetFactory (τ : Type)
  /-- Members are assigned to a freshly allocated object. -/
  | members (allocated : τ)
  /-- A constructor takes one value for each slot, in order. -/
  | positional (construct : List Value → Except String τ)
  /-- The object is made from one value. -/
  | scalar (make : Value → Except String τ)

/-- The kind of target that a factory makes. -/
def TargetFactory.kind {τ : Type} : TargetFactory τ → TargetKind
  | .members _ => .members
  | .positional _ => .positional
  | .scalar _ => .scalar

/-- A binding target: its identity, its members and its factory. -/
structure TargetDescriptor (τ : Type) where
  identity : String
  members : List (MemberDescriptor τ)
  factory : TargetFactory τ

namespace TargetDescriptor

variable {τ : Type}

/-- The kind of a target. -/
def kind (target : TargetDescriptor τ) : TargetKind :=
  target.factory.kind

/-- Whether a target is made by one constructor call. -/
def isPositional (target : TargetDescriptor τ) : Bool :=
  target.kind = .positional

/-- Number of members or slots. -/
def arity (target : TargetDescriptor τ) : Nat :=
  target.members.length

/-- The position of the member that a column name is bound to. -/
def position? (target : TargetDescriptor τ) (name : String) : Option Nat :=
  match target.members.findIdx? fun member => member.name == name with
  | some position => some position
  | none =>
      target.members.findIdx? fun member => Text.equalIgnoringCase member.name name

/-- The member that a column name is bound to, with its position. -/
def findMember? (target : TargetDescriptor τ) (name : String) :
    Option (Nat × MemberDescriptor τ) :=
  match target.position? name with
  | some position => target.members[position]?.map fun member => (position, member)
  | none => none

/-- A target made from the first column. -/
def scalar
    (identity : String)
    (declaredType : MemberType)
    (isNullable : Bool)
    (make : Value → Except String τ) : TargetDescriptor τ where
  identity := identity
  members := [{ name := "", declaredType := declaredType, isNullable := isNullable }]
  factory := .scalar make

/-- Inspected text of a target. -/
def inspect (target : TargetDescriptor τ) : String :=
  Text.inspectFields "TargetDescriptor"
    [("identity", Text.inspectString target.identity),
      ("kind", target.kind.inspect),
      ("members", Text.inspectList (target.members.map MemberDescriptor.inspect))]

end TargetDescriptor
end RowBinding
