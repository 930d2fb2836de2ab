import RowBinding.Expression.Error

/-!
# Hosts

The members, methods and constructors that a host keeps under numbers, as pure
functions. Reading a field, the zero value of a method, empty lists and records
need no host and work the same under every one.
-/

namespace RowBinding

/-- What a host keeps under its numbers. -/
structure Host where
  /-- Read a member of an owner. -/
  readMember : Nat → Value → Except EvalError Value
  /-- Write a member of an owner, if it can be written. -/
  writeMember : Nat → Option (Value → Value → Except EvalError Value)
  /-- Call a method on a receiver, if it has one, with arguments. -/
  callMethod : Nat → Option Value → List Value → Except EvalError Value
  /-- Construct a value from arguments. -/
  construct : Nat → List Value → Except EvalError Value

namespace MemberRef

/-- Read the field of a record or the key of a JSON object. -/
def readField (name : String) (owner : Value) : Except EvalError Value :=
  match owner with
  | .record typeName fields =>
      match Fields.get? fields name with
      | some value => .ok value
      | none => .error (.invocation name (typeName ++ " has no such field"))
  | .json (.object members) =>
      match Json.member? members name with
      | some document => .ok (.json document)
      | none => .ok .null
  | other =>
      .error (.invocation name ("cannot read a field of a " ++ other.typeName ++ " value"))

/-- Write the field of a record. -/
def writeField (name : String) (owner value : Value) : Except EvalError Value :=
  match owner with
  | .record typeName fields => .ok (.record typeName (Fields.set fields name value))
  | other =>
      .error
        (.invocation name ("cannot assign a field of a " ++ other.typeName ++ " value"))

/-- Read a member of an owner. -/
def read (host : Host) (member : MemberRef) (owner : Value) : Except EvalError Value :=
  match member.access with
  | .field => readField member.name owner
  | .host number => host.readMember number owner

/-- Write a member of an owner. -/
def write (host : Host) (member : MemberRef) (owner value : Value) :
    Except EvalError Value :=
  match member.access with
  | .field => writeField member.name owner value
  | .host number =>
      match host.writeMember number with
      | some set => set owner value
      | none => .error (.missingSetter member.name)

end MemberRef

/-- Call a method on a receiver, if it has one, with arguments. -/
def MethodRef.invoke
    (host : Host)
    (method : MethodRef)
    (receiver : Option Value)
    (arguments : List Value) : Except EvalError Value :=
  match method.body with
  | .zero => .ok method.returnType.zeroValue
  | .host number => host.callMethod number receiver arguments

/-- Construct a value from arguments. -/
def ConstructorRef.invoke
    (host : Host)
    (constructor : ConstructorRef)
    (arguments : List Value) : Except EvalError Value :=
  match constructor.body with
  | .list => .ok (.list [])
  | .record fields =>
      if arguments.length = fields.length then
        .ok (.record constructor.typeName (Fields.setAll [] (fields.zip arguments)))
      else
        .error
          (.invocation constructor.typeName
            ("expected " ++ Text.ofNat fields.length ++ " arguments, got " ++
              Text.ofNat arguments.length))
  | .host number => host.construct number arguments

end RowBinding
