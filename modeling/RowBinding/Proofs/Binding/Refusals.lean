import RowBinding.Proofs.Binding.ConversionTable
import RowBinding.Proofs.Binding.DeliveredTypes

/-!
# Refused columns

A compilation fails like the first column that cannot be bound, and what stops
it there is a matter of that column and its member alone.

For want of a conversion it stops at a column that can be read, but as a type
that the table of conversions does not pair with the member. Floats and decimals
are converted from their text. So their columns are bound to some members that
the table pairs with texts only.
-/

namespace RowBinding

variable {τ : Type}

namespace Compiler

variable
  {compiler : Compiler}
  {target : TargetDescriptor τ}
  {column : ColumnDescriptor}
  {member : MemberDescriptor τ}

/-! ## The failure of a column -/

/-- Why a column cannot be bound to a member, if it cannot. -/
def refusal? (column : ColumnDescriptor) (member : MemberDescriptor τ) : Option BindError :=
  Outcome.error? (planColumn 0 column member .scalar)

/-- Where a column stands and where its values go does not matter to its failure. -/
theorem error?_planColumn (ordinal : Nat) (sink : Sink) :
    Outcome.error? (planColumn ordinal column member sink) = refusal? column member := by
  unfold refusal? planColumn
  cases ConversionRules.readOperation? column.dataType with
  | none => rfl
  | some read =>
      dsimp only
      split
      · split <;> rfl
      · split <;> rfl

/-- Why a compilation stops at a column, if it does. -/
def stop?
    (compiler : Compiler)
    (target : TargetDescriptor τ)
    (column : ColumnDescriptor) : Option BindError :=
  match target.findMember? column.name with
  | some (_, member) =>
      match target.factory, member.setter with
      | .members _, none => some (.missingSetter column.name member.name)
      | _, _ => refusal? column member
  | none =>
      match target.factory with
      | .positional _ => Outcome.error? (checkPlaceholder compiler.config target column)
      | _ => none

theorem findSome?_cons_eq_or
    (stop : ColumnDescriptor → Option BindError)
    (column : ColumnDescriptor)
    (rest : List ColumnDescriptor) :
    (column :: rest).findSome? stop = (stop column).or (rest.findSome? stop) := by
  rw [List.findSome?_cons]
  cases stop column <;> rfl

theorem error?_planMembers
    {allocated : τ}
    (made : target.factory = .members allocated)
    (columns : List ColumnDescriptor) :
    ∀ ordinal setterCount,
      Outcome.error? (planMembers target ordinal setterCount columns) =
        columns.findSome? (compiler.stop? target) := by
  induction columns with
  | nil => exact fun _ _ => rfl
  | cons column rest inductionHypothesis =>
      intro ordinal setterCount
      unfold planMembers
      rw [findSome?_cons_eq_or, stop?, made]
      cases target.findMember? column.name with
      | none => exact inductionHypothesis _ _
      | some placed =>
          obtain ⟨position, member⟩ := placed
          dsimp only
          cases member.setter with
          | none => rfl
          | some setter =>
              refine (Outcome.error?_bind fun plan => ?_).trans
                (congrArg (Option.or · _) (error?_planColumn _ _))
              rw [Outcome.error?_bind_pure, inductionHypothesis]

theorem error?_planSlots
    {construct : List Value → Except String τ}
    (made : target.factory = .positional construct)
    (columns : List ColumnDescriptor) :
    ∀ ordinal,
      Outcome.error? (planSlots compiler.config target ordinal columns) =
        columns.findSome? (compiler.stop? target) := by
  induction columns with
  | nil => exact fun _ => rfl
  | cons column rest inductionHypothesis =>
      intro ordinal
      unfold planSlots
      rw [findSome?_cons_eq_or, stop?, made]
      cases target.findMember? column.name with
      | none => exact Outcome.error?_bind fun _ => inductionHypothesis _
      | some placed =>
          obtain ⟨position, member⟩ := placed
          refine (Outcome.error?_bind fun plan => ?_).trans
            (congrArg (Option.or · _) (error?_planColumn _ _))
          rw [Outcome.error?_bind_pure, inductionHypothesis]

/-- A compilation fails like the first column that stops it. -/
theorem error?_build
    (notScalar : ∀ make, target.factory ≠ .scalar make)
    (typeName : String)
    (schema : RowSchema) :
    Outcome.error? (compiler.build typeName target schema) =
      schema.columns.findSome? (compiler.stop? target) := by
  unfold build
  cases made : target.factory with
  | members allocated =>
      dsimp only
      rw [Outcome.error?_bind_pure, error?_planMembers made]
  | positional construct =>
      dsimp only
      rw [Outcome.error?_bind_pure, error?_planSlots made]
  | scalar make => exact absurd made (notScalar make)

/-- A compilation for a scalar fails like its first column does. -/
theorem error?_build_scalar
    {make : Value → Except String τ}
    (made : target.factory = .scalar make)
    {schema : RowSchema}
    (isColumn : schema.columns.head? = some column)
    (isMember : target.members.head? = some member)
    (typeName : String) :
    Outcome.error? (compiler.build typeName target schema) = refusal? column member := by
  obtain ⟨columns, isColumns⟩ := List.head?_eq_some_iff.mp isColumn
  obtain ⟨members, isMembers⟩ := List.head?_eq_some_iff.mp isMember
  unfold build
  rw [made]
  dsimp only
  rw [Outcome.error?_bind_pure, planScalar, isColumns, isMembers]
  dsimp only
  rw [refusal?]
  cases planColumn 0 column member .scalar <;> rfl

/-! ## Missing conversions -/

/-- Floats and decimals get by way of their text to some members that the table of
conversions pairs with texts only. -/
def PassesAsText (read : ReadOperation) (type : MemberType) : Prop :=
  read.normalizesNumeric = true ∧
    (type.dataType? = some .char ∨ type.dataType? = some .dateTime ∨ type.dataType? = some .guid)

/-- Of the members that the table has no path to from a number, those that numbers get to
as texts are the ones that the table has a path to from a text. -/
theorem conversion?_convertedType_eq_none_iff (read : ReadOperation) (type : MemberType) :
    ConversionRules.conversion? (convertedType read type) type = none ↔
      ConversionRules.conversion? read.resultType type = none ∧ ¬ PassesAsText read type := by
  unfold convertedType PassesAsText
  by_cases normalized : (read.normalizesNumeric && type != .object) = true
  · obtain ⟨normalizes, notObject⟩ := Bool.and_eq_true_iff.mp normalized
    rw [if_pos normalized]
    cases type with
    | custom name => simp [ConversionRules.conversion?, MemberType.dataType?]
    | primitive target notTime =>
        cases read with
        | getFloat | getDouble | getDecimal =>
            cases target <;>
              simp_all [ConversionRules.conversion?, MemberType.dataType?, MemberType.object,
                ConversionRules.allows, ReadOperation.resultType, DataType.isNumeric,
                ReadOperation.normalizesNumeric]
        | _ => cases normalizes
  · rw [if_neg normalized]
    refine ⟨fun noPath => ⟨noPath, fun asText => normalized ?_⟩, And.left⟩
    obtain ⟨normalizes, passes⟩ := asText
    rw [normalizes, Bool.true_and, bne_iff_ne, ne_eq, MemberType.eq_object_iff]
    rcases passes with named | named | named <;> simp [named]

/-- A column cannot be converted exactly if it can be read, but as no type that the member
can be made from. -/
theorem refusal?_eq_unsupportedConversion_iff
    {name : String}
    {source : DataType}
    {type : MemberType} :
    refusal? column member = some (.unsupportedConversion name source type) ↔
      (column.name = name ∧ column.dataType = source ∧ member.declaredType = type) ∧
        member.isJson = false ∧
          ∃ read, ConversionRules.readOperation? column.dataType = some read ∧
            ConversionRules.conversion? (convertedType read member.declaredType)
              member.declaredType = none := by
  unfold refusal? planColumn
  cases readable : ConversionRules.readOperation? column.dataType with
  | none => simp [Outcome.error?]
  | some read =>
      dsimp only
      split
      · next isJson => split <;> simp [Outcome.error?, isJson]
      · next notJson =>
          split
          · next path chosen =>
              rw [← convertedType] at chosen
              simp [Outcome.error?, chosen]
          · next noPath =>
              rw [← convertedType] at noPath
              simp [Outcome.error?, noPath, notJson]

/-! ## Compilations without a conversion -/

section Stops

variable
  {typeName : String}
  {schema : RowSchema}
  {ordinal : Nat}

theorem stop?_eq_none_of_build
    {binder : Binder τ}
    (notScalar : ∀ make, target.factory ≠ .scalar make)
    (compiles : compiler.build typeName target ⟨[column]⟩ = .ok binder) :
    compiler.stop? target column = none := by
  have passes : Outcome.error? (compiler.build typeName target ⟨[column]⟩) = _ :=
    error?_build notScalar typeName ⟨[column]⟩
  rw [compiles, findSome?_cons_eq_or, List.findSome?_nil, Option.or_none] at passes
  exact passes.symm

/-- A column that has a member stops a compilation as it cannot be bound to the member, if
the member can be assigned where that is asked for. -/
theorem stop?_of_findMember?
    {position : Nat}
    (isMember : target.findMember? column.name = some (position, member))
    (assignable : ∀ allocated, target.factory = .members allocated →
      member.setter.isSome = true) :
    compiler.stop? target column = refusal? column member := by
  rw [stop?, isMember]
  cases made : target.factory with
  | positional construct | scalar make => rfl
  | members allocated =>
      obtain ⟨setter, isSetter⟩ := Option.isSome_iff_exists.mp (assignable allocated made)
      simp only [isSetter]

/-- A missing conversion stops a compilation only at a column that has a member. -/
theorem exists_findMember?_of_stop?
    {name : String}
    {source : DataType}
    {type : MemberType}
    (stops : compiler.stop? target column = some (.unsupportedConversion name source type)) :
    ∃ position member, target.findMember? column.name = some (position, member) ∧
      refusal? column member = some (.unsupportedConversion name source type) := by
  unfold stop? at stops
  split at stops
  · next position member isMember =>
      refine ⟨position, member, isMember, ?_⟩
      split at stops
      · cases stops
      · exact stops
  · split at stops
    · unfold checkPlaceholder at stops
      split at stops
      · split at stops <;> cases stops
      · cases stops
    · cases stops

/-- For want of the conversion of a column, a compilation stops at this column or not at
all, unless an earlier one stops it. -/
theorem build_eq_unsupportedConversion_iff_refusal?
    (binds : Binds target schema ordinal column member)
    (assignable : ∀ allocated, target.factory = .members allocated →
      member.setter.isSome = true)
    (earlier : ∀ other ∈ schema.columns.take ordinal,
      ∃ binder, compiler.build typeName target ⟨[other]⟩ = .ok binder) :
    compiler.build typeName target schema =
        .error (.unsupportedConversion column.name column.dataType member.declaredType) ↔
      refusal? column member =
        some (.unsupportedConversion column.name column.dataType member.declaredType) := by
  obtain ⟨isColumn, isBound⟩ := binds
  rw [← Outcome.error?_eq_some_iff]
  by_cases isScalar : ∃ make, target.factory = .scalar make
  · obtain ⟨make, made⟩ := isScalar
    rw [made] at isBound
    obtain ⟨rfl, isMember⟩ := isBound
    rw [error?_build_scalar made (List.head?_eq_getElem?.trans isColumn) isMember]
  · have notScalar (make) (made : target.factory = .scalar make) : False := isScalar ⟨make, made⟩
    obtain ⟨position, isMember⟩ : ∃ position,
        target.findMember? column.name = some (position, member) := by
      cases made : target.factory with
      | members allocated | positional construct => simpa [made] using isBound
      | scalar make => exact absurd made (notScalar make)
    have passes : (schema.columns.take ordinal).findSome? (compiler.stop? target) = none :=
      List.findSome?_eq_none_iff.mpr fun other isEarlier =>
        stop?_eq_none_of_build notScalar (earlier other isEarlier).choose_spec
    have isColumns : schema.columns =
        schema.columns.take ordinal ++ column :: schema.columns.drop (ordinal + 1) := by
      obtain ⟨inside, rfl⟩ := List.getElem?_eq_some_iff.mp isColumn
      rw [← List.drop_eq_getElem_cons inside, List.take_append_drop]
    rw [error?_build notScalar, isColumns, List.findSome?_append, passes, Option.none_or,
      findSome?_cons_eq_or, stop?_of_findMember? isMember assignable]
    cases refused : refusal? column member with
    | some error => rfl
    | none =>
        refine ⟨fun stops => ?_, nofun⟩
        obtain ⟨other, _, stops⟩ := List.exists_of_findSome?_eq_some stops
        obtain ⟨_, otherMember, isOther, otherRefused⟩ := exists_findMember?_of_stop? stops
        obtain ⟨⟨sameName, sameType, _⟩, noConversion⟩ :=
          refusal?_eq_unsupportedConversion_iff.mp otherRefused
        -- A column of the same name has the same member.
        rw [sameName, isMember] at isOther
        cases isOther
        rw [sameType] at noConversion
        rw [← refused]
        exact refusal?_eq_unsupportedConversion_iff.mpr ⟨⟨rfl, rfl, rfl⟩, noConversion⟩

/--
What compilations for want of a conversion stop at.

A column bound to a member that is not JSON stops a compilation, unless an earlier one
does, exactly if it can be read, but as a type that the table of conversions has no path
from to the member, and does not pass as a text. If it passes as a text, it can be bound.
-/
theorem build_eq_unsupportedConversion_iff
    (binds : Binds target schema ordinal column member)
    (notJson : member.isJson = false)
    (assignable : ∀ allocated, target.factory = .members allocated →
      member.setter.isSome = true)
    (earlier : ∀ other ∈ schema.columns.take ordinal,
      ∃ binder, compiler.build typeName target ⟨[other]⟩ = .ok binder) :
    (compiler.build typeName target schema =
        .error (.unsupportedConversion column.name column.dataType member.declaredType) ↔
      ∃ read, ConversionRules.readOperation? column.dataType = some read ∧
        ConversionRules.conversion? read.resultType member.declaredType = none ∧
          ¬ PassesAsText read member.declaredType) ∧
    ∀ read, ConversionRules.readOperation? column.dataType = some read →
      PassesAsText read member.declaredType →
        ∀ position sink, ∃ plan, planColumn position column member sink = .ok plan := by
  constructor
  · rw [build_eq_unsupportedConversion_iff_refusal? binds assignable earlier,
      refusal?_eq_unsupportedConversion_iff]
    simp only [conversion?_convertedType_eq_none_iff, notJson, true_and]
  · intro read readable passes
    cases chosen : ConversionRules.conversion? (convertedType read member.declaredType)
        member.declaredType with
    | none => exact absurd passes ((conversion?_convertedType_eq_none_iff _ _).mp chosen).2
    | some path => exact exists_planColumn_of_suits readable (.converted notJson path chosen)

end Stops

/-- A column of points in time in the place of whole numbers. -/
def datedColumn : ColumnDescriptor where
  name := "Number"
  dataType := .dateTime

/-- A compilation stops at a point in time for a whole number, behind a text for a text. -/
theorem build_datedColumn :
    ({} : Compiler).build "LabelledNumber" labelledNumber
        ⟨[⟨"LABEL", .string, none⟩, datedColumn]⟩ =
      .error (.unsupportedConversion "Number" .dateTime (.primitive (.integer .int64) nofun)) := by
  have binds : Binds labelledNumber ⟨[⟨"LABEL", .string, none⟩, datedColumn]⟩ 1 datedColumn
      { name := "Number"
        declaredType := .primitive (.integer .int64) nofun
        setter := some fun target value => .ok (value, target.2) } :=
    ⟨rfl, 0, rfl⟩
  refine (build_eq_unsupportedConversion_iff binds rfl (fun _ _ => rfl) ?_).1.mpr
    ⟨.getDateTime, rfl, rfl, fun passes => nomatch passes.1⟩
  intro other isEarlier
  obtain rfl := List.mem_singleton.mp isEarlier
  exact ⟨_, rfl⟩

/-- A target that is a point in time. -/
def moment : TargetDescriptor Value :=
  .scalar "Moment" (.primitive .dateTime nofun) false .ok

/-- A column of doubles. -/
def secondsColumn : ColumnDescriptor where
  name := "seconds"
  dataType := .float64

/-- A column of doubles is bound to a point in time, which the table does not pair with
doubles. -/
theorem exists_build_moment :
    Binds moment ⟨[secondsColumn]⟩ 0 secondsColumn
        { name := "", declaredType := .primitive .dateTime nofun } ∧
      ConversionRules.readOperation? secondsColumn.dataType = some .getDouble ∧
      ConversionRules.conversion? ReadOperation.getDouble.resultType
        (.primitive .dateTime nofun) = none ∧
      ∃ binder, ({} : Compiler).build "Moment" moment ⟨[secondsColumn]⟩ = .ok binder :=
  ⟨⟨rfl, rfl, rfl⟩, rfl, rfl, _, rfl⟩

end Compiler
end RowBinding
