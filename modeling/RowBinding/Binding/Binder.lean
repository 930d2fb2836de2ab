import RowBinding.Binding.Codec
import RowBinding.Binding.ConversionRules
import RowBinding.Binding.Error
import RowBinding.Binding.Fingerprint

/-!
# Binders

A binder makes objects from the rows of one schema. It is an ordered list of
column plans with a way to construct the object. Every decision that depends on
the schema alone is fixed in the plans.

Applying a binder extracts the value of each planned column in order and hands
it to where the plan says. The first failure ends the row.
-/

namespace RowBinding

/-- Where the value of a column goes. -/
inductive Sink
  /-- To a setter, by its position in the list of setters. -/
  | member (index : Nat)
  /-- To a constructor slot. -/
  | slot (index : Nat)
  /-- To the factory of a scalar. -/
  | scalar
  deriving DecidableEq

/-- Inspected text of a sink. -/
def Sink.inspect : Sink → String
  | .member index => "Member(" ++ Text.ofNat index ++ ")"
  | .slot index => "Slot(" ++ Text.ofNat index ++ ")"
  | .scalar => "Scalar"

/-- How the value of one column is extracted, and where it goes. -/
structure ColumnPlan where
  ordinal : Nat
  column : String
  memberType : MemberType
  read : ReadOperation
  /-- Whether the text of the column is a JSON document. -/
  isJson : Bool
  /-- Whether a number becomes its text before it is converted. -/
  normalizes : Bool
  path : ConversionPath
  /-- Whether a null of the column stands for the zero value. -/
  guardsNull : Bool
  zero : Value
  sink : Sink

namespace ColumnPlan

/-- Inspected text of a column plan. -/
def inspect (plan : ColumnPlan) : String :=
  Text.inspectFields "ColumnPlan"
    [("ordinal", Text.ofNat plan.ordinal), ("column", Text.inspectString plan.column),
      ("member_type", plan.memberType.inspect), ("read", plan.read.name),
      ("json", Text.inspectBool plan.isJson),
      ("normalize", Text.inspectBool plan.normalizes),
      ("conversion", plan.path.inspect),
      ("null_guard", Text.inspectBool plan.guardsNull), ("zero", plan.zero.inspect),
      ("sink", plan.sink.inspect)]

/-- The failure of a cell that is not what the plan reads. -/
def readError (plan : ColumnPlan) (raw : Value) : BindError :=
  .columnRead plan.column plan.read.resultType.name raw.typeName

/-- The value of the text of a JSON document. -/
def decodeJson (plan : ColumnPlan) (codec : JsonCodec) (raw : Value) :
    Except BindError Value :=
  match raw with
  | .string text =>
      if codec.isBlank text then .ok plan.zero
      else
        match codec.decode text plan.memberType with
        | .ok value => .ok value
        | .error reason => .error (.jsonDecode plan.column reason)
  | _ => .error (plan.readError raw)

/-- A number as its text, if the plan asks for it. -/
def normalized (plan : ColumnPlan) (raw : Value) : Value :=
  if plan.normalizes then
    match raw.numericText? with
    | some text => .string text
    | none => raw
  else
    raw

/-- The value of a cell that is what the plan reads. -/
def convertRaw
    (plan : ColumnPlan)
    (layouts : List String)
    (raw : Value) : Except BindError Value :=
  match plan.path with
  | .identity => .ok (plan.normalized raw)
  | .convert target =>
      match (plan.normalized raw).convert layouts target with
      | .ok value => .ok value
      | .error error => .error (.conversion plan.column error)

/-- The value of a cell. -/
def extractRaw
    (plan : ColumnPlan)
    (codec : JsonCodec)
    (layouts : List String)
    (raw : Value) : Except BindError Value :=
  if plan.read.accepts raw then
    if plan.isJson then plan.decodeJson codec raw else plan.convertRaw layouts raw
  else
    .error (plan.readError raw)

/-- The value that a column delivers on a row. -/
def extract
    (plan : ColumnPlan)
    (codec : JsonCodec)
    (layouts : List String)
    (record : RowRecord) : Except BindError Value := do
  let isNull ←
    if plan.guardsNull then (record.isNull plan.ordinal).mapError .source
    else pure false
  if isNull then
    return plan.zero
  else
    let raw ← (record.value plan.ordinal).mapError .source
    plan.extractRaw codec layouts raw

end ColumnPlan

/-- How a binder constructs its object. -/
inductive Construction (τ : Type)
  /-- Setters assign the members of an allocated object. -/
  | members (allocated : τ) (setters : List (Setter τ))
  /-- A constructor takes the values of the slots, or their defaults. -/
  | positional (construct : List Value → Except String τ) (defaults : List Value)
  /-- The object is made from one value. -/
  | scalar (make : Value → Except String τ)

/-- What makes objects from the rows of one schema. -/
structure Binder (τ : Type) where
  target : String
  fingerprint : Fingerprint
  plans : List ColumnPlan
  construction : Construction τ
  codec : JsonCodec
  layouts : List String

namespace Binder

variable {τ : Type}

/-- The value that a plan delivers on a row. -/
def extract (binder : Binder τ) (record : RowRecord) (plan : ColumnPlan) :
    Except BindError Value :=
  plan.extract binder.codec binder.layouts record

/-- Number of columns that a binder reads. -/
def columnCount (binder : Binder τ) : Nat :=
  binder.plans.length

/-- Assign the value of one column to its member. -/
def assign
    (binder : Binder τ)
    (setters : List (Setter τ))
    (record : RowRecord)
    (target : τ)
    (plan : ColumnPlan) : Except BindError τ := do
  let value ← binder.extract record plan
  match plan.sink with
  | .member index =>
      match setters[index]? with
      | some setter => (setter target value).mapError (.member plan.column)
      | none => return target
  | _ => return target

/-- Put the value of one column into its slot. -/
def fill
    (binder : Binder τ)
    (record : RowRecord)
    (slots : List Value)
    (plan : ColumnPlan) : Except BindError (List Value) := do
  let value ← binder.extract record plan
  match plan.sink with
  | .slot index => return slots.set index value
  | _ => return slots

/-- The failure of the factory of a binder. -/
def constructError (binder : Binder τ) (reason : String) : BindError :=
  .construct binder.target reason

/-- Make an object from a row. -/
def bind (binder : Binder τ) (record : RowRecord) : Except BindError τ :=
  match binder.construction with
  | .members allocated setters =>
      binder.plans.foldlM (binder.assign setters record) allocated
  | .positional construct defaults => do
      let slots ← binder.plans.foldlM (binder.fill record) defaults
      (construct slots).mapError binder.constructError
  | .scalar make => do
      let value ←
        match binder.plans with
        | plan :: _ => binder.extract record plan
        | [] => pure .null
      (make value).mapError binder.constructError

/-- Inspected text of a binder. -/
def inspect (binder : Binder τ) : String :=
  Text.inspectFields "Binder"
    [("target", Text.inspectString binder.target),
      ("fingerprint",
        "Fingerprint(" ++ Text.inspectString binder.fingerprint.text ++ ")"),
      ("plans", Text.inspectList (binder.plans.map ColumnPlan.inspect))]

end Binder
end RowBinding
