import RowBinding.Binding.Compiler

/-!
# Interpreting rows

Making an object from a row without a plan: the columns are gone through in
order, each name is looked up among the members, and the cell is read, decoded
or converted as the column and the member say.

A binder decides all that once for the schema. On every row it makes the same
object as the interpreter, or fails in the same way.
-/

namespace RowBinding
namespace Compiler

variable {τ : Type}

/-- The value of a text in a JSON member. -/
def jsonCell
    (compiler : Compiler)
    (column : ColumnDescriptor)
    (member : MemberDescriptor τ)
    (text : String) : Except BindError Value :=
  if compiler.codec.isBlank text then .ok member.zeroValue
  else (compiler.codec.decode text member.declaredType).mapError (.jsonDecode column.name)

/-- The value of a cell in a member of a type; an object takes it as it is. -/
def convertedCell
    (compiler : Compiler)
    (column : ColumnDescriptor)
    (read : ReadOperation)
    (type : MemberType)
    (cell : Value) : Except BindError Value :=
  match type.dataType? with
  | none => .error (.unsupportedConversion column.name column.dataType type)
  | some .object => .ok cell
  | some target =>
      let number := if read.normalizesNumeric then cell.numericText? else none
      ((((number.map Value.string).getD cell).convert compiler.config.layouts target)).mapError
        (.conversion column.name)

/-- The value that a cell that is not guarded delivers to a member. -/
def readCell
    (compiler : Compiler)
    (column : ColumnDescriptor)
    (member : MemberDescriptor τ)
    (cell : Value) : Except BindError Value :=
  match ConversionRules.readOperation? column.dataType with
  | none => .error (.unsupportedColumnType column.name column.dataType)
  | some read =>
      if !read.accepts cell then
        .error (.columnRead column.name read.resultType.name cell.typeName)
      else if member.isJson then
        match cell with
        | .string text => compiler.jsonCell column member text
        | _ => .error (.columnRead column.name read.resultType.name cell.typeName)
      else
        compiler.convertedCell column read member.declaredType cell

/-- The value that a column of a row delivers to a member. -/
def cellValue
    (compiler : Compiler)
    (record : RowRecord)
    (ordinal : Nat)
    (column : ColumnDescriptor)
    (member : MemberDescriptor τ) : Except BindError Value := do
  let isNull ←
    if column.isNullable then (record.isNull ordinal).mapError .source else pure false
  if isNull then
    return member.zeroValue
  else
    compiler.readCell column member (← (record.value ordinal).mapError .source)

/-- Assign the cells of the columns that have a member to an object. -/
def assignCells
    (compiler : Compiler)
    (target : TargetDescriptor τ)
    (record : RowRecord)
    (ordinal : Nat)
    (object : τ) : List ColumnDescriptor → Except BindError τ
  | [] => .ok object
  | column :: rest =>
      match target.findMember? column.name with
      | none => compiler.assignCells target record (ordinal + 1) object rest
      | some (_, member) => do
          let value ← compiler.cellValue record ordinal column member
          match member.setter with
          | none => .error (.missingSetter column.name member.name)
          | some setter => do
              let assigned ← (setter object value).mapError (.member column.name)
              compiler.assignCells target record (ordinal + 1) assigned rest

/-- Put the cells of the columns that have a slot into the arguments. -/
def fillCells
    (compiler : Compiler)
    (target : TargetDescriptor τ)
    (record : RowRecord)
    (ordinal : Nat)
    (arguments : List Value) : List ColumnDescriptor → Except BindError (List Value)
  | [] => .ok arguments
  | column :: rest =>
      match target.findMember? column.name with
      | none => compiler.fillCells target record (ordinal + 1) arguments rest
      | some (position, member) => do
          let value ← compiler.cellValue record ordinal column member
          compiler.fillCells target record (ordinal + 1) (arguments.set position value) rest

/-- Make an object from a row of a schema. -/
def interpretRow
    (compiler : Compiler)
    (target : TargetDescriptor τ)
    (schema : RowSchema)
    (record : RowRecord) : Except BindError τ :=
  match target.factory with
  | .members allocated => compiler.assignCells target record 0 allocated schema.columns
  | .positional construct => do
      let defaults := target.members.map MemberDescriptor.zeroValue
      let arguments ← compiler.fillCells target record 0 defaults schema.columns
      (construct arguments).mapError (.construct target.identity)
  | .scalar make =>
      match schema.columns, target.members with
      | column :: _, member :: _ => do
          let value ← compiler.cellValue record 0 column member
          (make value).mapError (.construct target.identity)
      | _, _ => .error (.noColumns target.identity)

end Compiler
end RowBinding
