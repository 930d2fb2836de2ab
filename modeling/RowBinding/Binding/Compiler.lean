import RowBinding.Binding.Binder
import RowBinding.Binding.Config

/-!
# Compiling binders

A compiler plans the columns of a schema for a target, from the first column
to the last, and stops at the first column that cannot be bound. Columns
without a member are left out. In a positional target such a column may be a
placeholder, which must name one of the slots.
-/

namespace RowBinding

/-- The settings that binders are compiled with. -/
structure Compiler where
  config : BindingConfig := {}
  codec : JsonCodec := .standard

namespace Compiler

variable {τ : Type}

/--
Plan a column for a member.

Floats and decimals go through their text, except to a member that takes every
value as it is.
-/
def planColumn
    (ordinal : Nat)
    (column : ColumnDescriptor)
    (member : MemberDescriptor τ)
    (sink : Sink) : Except BindError ColumnPlan :=
  match ConversionRules.readOperation? column.dataType with
  | none => .error (.unsupportedColumnType column.name column.dataType)
  | some read =>
      let plan (isJson normalizes : Bool) (path : ConversionPath) : ColumnPlan :=
        { ordinal := ordinal
          column := column.name
          memberType := member.declaredType
          read := read
          isJson := isJson
          normalizes := normalizes
          path := path
          guardsNull := column.isNullable
          zero := member.zeroValue
          sink := sink }
      if member.isJson then
        if read.resultType = .string then .ok (plan true false .identity)
        else .error (.nonJsonColumnForJsonMember column.name column.dataType)
      else
        let normalizes :=
          read.normalizesNumeric && member.declaredType != .object
        let source := if normalizes then .string else read.resultType
        match ConversionRules.conversion? source member.declaredType with
        | some path => .ok (plan false normalizes path)
        | none =>
            .error
              (.unsupportedConversion column.name column.dataType member.declaredType)

/-- Plan the columns of a target whose members are assigned, collecting setters. -/
def planMembers
    (target : TargetDescriptor τ)
    (ordinal : Nat)
    (setterCount : Nat) :
    List ColumnDescriptor → Except BindError (List ColumnPlan × List (Setter τ))
  | [] => .ok ([], [])
  | column :: rest =>
      match target.findMember? column.name with
      | none => planMembers target (ordinal + 1) setterCount rest
      | some (_, member) =>
          match member.setter with
          | none => .error (.missingSetter column.name member.name)
          | some setter => do
              let plan ← planColumn ordinal column member (.member setterCount)
              let (plans, setters) ←
                planMembers target (ordinal + 1) (setterCount + 1) rest
              return (plan :: plans, setter :: setters)

/-- Whether a column without a member is no placeholder, or one of a real slot. -/
def checkPlaceholder
    (config : BindingConfig)
    (target : TargetDescriptor τ)
    (column : ColumnDescriptor) : Except BindError Unit :=
  match config.placeholderSlot? column.name with
  | some slot =>
      if slot < target.arity then .ok ()
      else .error (.placeholderSlotOutOfRange column.name slot target.arity)
  | none => .ok ()

/-- Plan the columns of a target that is made by one constructor call. -/
def planSlots
    (config : BindingConfig)
    (target : TargetDescriptor τ)
    (ordinal : Nat) :
    List ColumnDescriptor → Except BindError (List ColumnPlan)
  | [] => .ok []
  | column :: rest =>
      match target.findMember? column.name with
      | none => do
          checkPlaceholder config target column
          planSlots config target (ordinal + 1) rest
      | some (position, member) => do
          let plan ← planColumn ordinal column member (.slot position)
          let plans ← planSlots config target (ordinal + 1) rest
          return plan :: plans

/-- Plan the first column of a scalar target. -/
def planScalar
    (target : TargetDescriptor τ)
    (schema : RowSchema) : Except BindError (List ColumnPlan) :=
  match schema.columns, target.members with
  | column :: _, member :: _ => (planColumn 0 column member .scalar).map ([·])
  | _, _ => .error (.noColumns target.identity)

/-- Compile the binder of a target over a schema. -/
def build
    (compiler : Compiler)
    (typeName : String)
    (target : TargetDescriptor τ)
    (schema : RowSchema) : Except BindError (Binder τ) := do
  let binder (plans : List ColumnPlan) (construction : Construction τ) : Binder τ :=
    { target := target.identity
      fingerprint := .of typeName target schema
      plans := plans
      construction := construction
      codec := compiler.codec
      layouts := compiler.config.layouts }
  match target.factory with
  | .members allocated => do
      let (plans, setters) ← planMembers target 0 0 schema.columns
      return binder plans (.members allocated setters)
  | .positional construct => do
      let plans ← planSlots compiler.config target 0 schema.columns
      return binder plans
        (.positional construct (target.members.map MemberDescriptor.zeroValue))
  | .scalar make => do
      let plans ← planScalar target schema
      return binder plans (.scalar make)

end Compiler
end RowBinding
