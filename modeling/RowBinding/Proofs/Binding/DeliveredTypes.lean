import RowBinding.Proofs.Binding.ColumnPlans
import RowBinding.Proofs.Binding.ConversionTable

/-!
# Types of delivered values

A binder that could be compiled gets along with its rows. What a column delivers
to a member is of the type that the member declares, or it stands for a null. And
a column that is read as a type of its own fails on cells of this type only for
what they contain.
-/

namespace RowBinding

variable {τ : Type}

/-- The cell is of the type of its column, or it is a null that is to be expected. -/
def ColumnDescriptor.Admits (column : ColumnDescriptor) (cell : Value) : Prop :=
  cell.dataType? = some column.dataType ∨ cell.isNull = true ∧ column.isNullable = true

/-- The failure is one of what the cell of a column contains. -/
inductive BindError.OfContent (column : String) : BindError → Prop
  | parse (text target : String) : OfContent column (.conversion column (.parse text target))
  | overflow (value target : String) :
      OfContent column (.conversion column (.overflow value target))
  | jsonDecode (reason : String) : OfContent column (.jsonDecode column reason)

theorem ValueError.OfContent.conversion
    {error : ValueError}
    (ofContent : error.OfContent)
    (column : String) :
    BindError.OfContent column (.conversion column error) := by
  cases ofContent with
  | parse text target => exact .parse text target
  | overflow value target => exact .overflow value target

/-! ## What is converted -/

/-- A column with an operation of its own is read as its type. -/
theorem ReadOperation.resultType_of_readOperation?
    {type : DataType}
    {read : ReadOperation}
    (readable : ConversionRules.readOperation? type = some read)
    (isTyped : read ≠ .getValue) :
    read.resultType = type := by
  cases type with
  | object => exact absurd (Option.some.inj readable).symm isTyped
  | guid | bytes | time => cases readable
  | integer kind =>
      cases kind with
      | sbyte | uint16 | uint32 | uint64 => exact absurd (Option.some.inj readable).symm isTyped
      | _ =>
          cases readable
          rfl
  | _ =>
      cases readable
      rfl

theorem ReadOperation.resultType_ne_object
    {read : ReadOperation}
    (isTyped : read ≠ .getValue) :
    read.resultType ≠ .object := by
  cases read with
  | getValue => exact absurd rfl isTyped
  | _ => exact nofun

/-- On the path that is chosen for a type, its values fail only for their content. -/
theorem Value.ofContent_of_conversion?
    {layouts : List String}
    {value : Value}
    {source target : DataType}
    {type : MemberType}
    {path : ConversionPath}
    {error : ValueError}
    (chosen : ConversionRules.conversion? source type = some path)
    (targeted : type.dataType? = some target)
    (typed : value.dataType? = some source)
    (notObject : source ≠ .object)
    (fails : value.convert layouts target = .error error) :
    error.OfContent := by
  unfold ConversionRules.conversion? at chosen
  simp only [targeted] at chosen
  split at chosen
  · next unchanged =>
      rw [convert_of_unchanged layouts typed (by simpa using unchanged)] at fails
      cases fails
  · split at chosen
    · next allowed => exact ofContent_of_convert typed notObject allowed fails
    · cases chosen

namespace Compiler

variable
  {compiler : Compiler}
  {column : ColumnDescriptor}
  {member : MemberDescriptor τ}
  {record : RowRecord}
  {ordinal : Nat}

/-- The type that a column is converted from, which is text for floats and decimals. -/
def convertedType (read : ReadOperation) (type : MemberType) : DataType :=
  if read.normalizesNumeric && type != .object then .string else read.resultType

/-- What an operation reads is what a member can be made from. -/
inductive Suits (member : MemberDescriptor τ) (read : ReadOperation) : Prop
  | json (isJson : member.isJson = true) (isText : read.resultType = .string)
  | converted
      (notJson : member.isJson = false)
      (path : ConversionPath)
      (chosen : ConversionRules.conversion? (convertedType read member.declaredType)
        member.declaredType = some path)

theorem suits_of_planColumn
    {sink : Sink}
    {plan : ColumnPlan}
    (planned : planColumn ordinal column member sink = .ok plan) :
    ConversionRules.readOperation? column.dataType = some plan.read ∧ Suits member plan.read := by
  unfold planColumn at planned
  cases readable : ConversionRules.readOperation? column.dataType with
  | none => simp [readable] at planned
  | some read =>
      simp only [readable] at planned
      split at planned
      · next isJson =>
          split at planned <;> cases planned
          exact ⟨rfl, .json isJson ‹_›⟩
      · next notJson =>
          split at planned
          · next path chosen =>
              cases planned
              exact ⟨rfl, .converted (by simpa using notJson) path chosen⟩
          · cases planned

/-- A column that can be read as what a member can be made from is bound to it. -/
theorem exists_planColumn_of_suits
    {read : ReadOperation}
    (readable : ConversionRules.readOperation? column.dataType = some read)
    (suits : Suits member read)
    (ordinal : Nat)
    (sink : Sink) :
    ∃ plan, planColumn ordinal column member sink = .ok plan := by
  unfold planColumn
  rw [readable]
  cases suits with
  | json isJson isText =>
      simp only [isJson, isText, if_true]
      exact ⟨_, rfl⟩
  | converted notJson path chosen =>
      rw [convertedType] at chosen
      simp only [notJson, chosen]
      exact ⟨_, rfl⟩

/-- A member takes every operation whose values, or their texts, convert to its type. -/
theorem suits_of_allows
    {read : ReadOperation}
    {target : DataType}
    (targeted : member.declaredType.dataType? = some target)
    (notObject : target ≠ .object)
    (notJson : member.isJson = false)
    (allowed : ConversionRules.allows
      (if read.normalizesNumeric then .string else read.resultType) target = true) :
    Suits member read := by
  have isConverted : convertedType read member.declaredType =
      if read.normalizesNumeric then .string else read.resultType := by
    have declared : (member.declaredType != .object) = true := by
      rw [bne_iff_ne, ne_eq, MemberType.eq_object_iff, targeted]
      simpa using notObject
    rw [convertedType, declared, Bool.and_true]
  rw [← isConverted] at allowed
  by_cases same : target = convertedType read member.declaredType
  · exact .converted notJson _ (ConversionRules.conversion?_of_unchanged targeted (.inr same))
  · exact .converted notJson _
      (ConversionRules.conversion?_of_allows targeted notObject same allowed)

/-! ## Delivered values -/

theorem dataType?_of_readCell
    {cell value : Value}
    {target : DataType}
    (targeted : member.declaredType.dataType? = some target)
    (notObject : target ≠ .object)
    (notJson : member.isJson = false)
    (reads : compiler.readCell column member cell = .ok value) :
    value.dataType? = some target := by
  unfold readCell at reads
  split at reads
  · cases reads
  · split at reads
    · cases reads
    · simp only [notJson, Bool.false_eq_true, if_false] at reads
      rw [convertedCell_of_ne_object targeted notObject] at reads
      exact Value.dataType?_of_convert notObject (Outcome.mapError_eq_ok_iff.mp reads)

/-- A value is delivered for a null that is expected, or it is read from its cell. -/
theorem isNull_or_reads_of_cellValue
    {value : Value}
    (delivers : compiler.cellValue record ordinal column member = .ok value) :
    (column.isNullable = true ∧ record.isNull ordinal = .ok true ∧ value = member.zeroValue) ∨
      ∃ cell, compiler.readCell column member cell = .ok value := by
  unfold cellValue at delivers
  dsimp only at delivers
  split at delivers
  · next isNullable =>
      obtain ⟨isNull, guarded, delivers⟩ := Outcome.bind_eq_ok_iff.mp delivers
      split at delivers
      · next holds =>
          cases delivers
          rw [holds] at guarded
          exact .inl ⟨isNullable, Outcome.mapError_eq_ok_iff.mp guarded, rfl⟩
      · obtain ⟨cell, _, reads⟩ := Outcome.bind_eq_ok_iff.mp delivers
        exact .inr ⟨cell, reads⟩
  · obtain ⟨isNull, unguarded, delivers⟩ := Outcome.bind_eq_ok_iff.mp delivers
    cases unguarded
    obtain ⟨cell, _, reads⟩ := Outcome.bind_eq_ok_iff.mp delivers
    exact .inr ⟨cell, reads⟩

theorem dataType?_of_cellValue
    {value : Value}
    {target : DataType}
    (targeted : member.declaredType.dataType? = some target)
    (notObject : target ≠ .object)
    (notJson : member.isJson = false)
    (delivers : compiler.cellValue record ordinal column member = .ok value) :
    value.dataType? = some target ∨
      column.isNullable = true ∧ record.isNull ordinal = .ok true ∧
        value = member.zeroValue := by
  rcases isNull_or_reads_of_cellValue delivers with isNull | ⟨cell, reads⟩
  · exact .inr isNull
  · exact .inl (dataType?_of_readCell targeted notObject notJson reads)

/-! ## Failures -/

theorem ofContent_of_jsonCell
    {text : String}
    {error : BindError}
    (fails : compiler.jsonCell column member text = .error error) :
    error.OfContent column.name := by
  unfold jsonCell at fails
  split at fails
  · cases fails
  · obtain ⟨reason, _, rfl⟩ := Outcome.mapError_eq_error_iff.mp fails
    exact .jsonDecode reason

/-- What is converted is of the type that the path is chosen for. -/
theorem dataType?_of_numericText
    {read : ReadOperation}
    {type : MemberType}
    {cell : Value}
    (notObject : type ≠ .object)
    (typed : cell.dataType? = some read.resultType) :
    (((if read.normalizesNumeric then cell.numericText? else none).map Value.string).getD
      cell).dataType? = some (convertedType read type) := by
  unfold convertedType
  cases normalizes : read.normalizesNumeric with
  | false => simpa using typed
  | true =>
      have accepted : read.accepts cell = true := by simp [ReadOperation.accepts, typed]
      obtain ⟨text, isText⟩ := ReadOperation.numericText?_of_accepts normalizes accepted
      simp [isText, notObject, Value.dataType?]

theorem convertedType_ne_object
    {read : ReadOperation}
    (isTyped : read ≠ .getValue)
    (type : MemberType) :
    convertedType read type ≠ .object := by
  unfold convertedType
  split
  · exact nofun
  · exact ReadOperation.resultType_ne_object isTyped

theorem ofContent_of_convertedCell
    {read : ReadOperation}
    {path : ConversionPath}
    {cell : Value}
    {error : BindError}
    (chosen : ConversionRules.conversion? (convertedType read member.declaredType)
      member.declaredType = some path)
    (isTyped : read ≠ .getValue)
    (typed : cell.dataType? = some read.resultType)
    (fails : compiler.convertedCell column read member.declaredType cell = .error error) :
    error.OfContent column.name := by
  cases targeted : member.declaredType.dataType? with
  | none => simp [ConversionRules.conversion?, targeted] at chosen
  | some target =>
      by_cases isObject : target = .object
      · subst isObject
        rw [convertedCell, targeted] at fails
        cases fails
      · have notObject : member.declaredType ≠ .object := by
          rw [ne_eq, MemberType.eq_object_iff, targeted]
          simpa using isObject
        rw [convertedCell_of_ne_object targeted isObject] at fails
        obtain ⟨cause, refused, rfl⟩ := Outcome.mapError_eq_error_iff.mp fails
        have ofContent := Value.ofContent_of_conversion? chosen targeted
          (dataType?_of_numericText notObject typed) (convertedType_ne_object isTyped _) refused
        exact ofContent.conversion column.name

theorem ofContent_of_readCell
    {read : ReadOperation}
    {cell : Value}
    {error : BindError}
    (readable : ConversionRules.readOperation? column.dataType = some read)
    (suits : Suits member read)
    (isTyped : read ≠ .getValue)
    (typed : cell.dataType? = some column.dataType)
    (fails : compiler.readCell column member cell = .error error) :
    error.OfContent column.name := by
  rw [← ReadOperation.resultType_of_readOperation? readable isTyped] at typed
  have accepted : read.accepts cell = true := by simp [ReadOperation.accepts, typed]
  rw [readCell, readable] at fails
  simp only [accepted, Bool.not_true, Bool.false_eq_true, if_false] at fails
  cases suits with
  | json isJson isText =>
      rw [isText] at typed
      cases cell with
      | string text =>
          simp only [isJson, if_true] at fails
          exact ofContent_of_jsonCell fails
      | _ => cases typed
  | converted notJson path chosen =>
      simp only [notJson, Bool.false_eq_true, if_false] at fails
      exact ofContent_of_convertedCell chosen isTyped typed fails

/-- A column with an operation of its own fails on a cell of its type only for what the
cell contains. -/
theorem ofContent_of_cellValue
    {read : ReadOperation}
    {cell : Value}
    {error : BindError}
    (readable : ConversionRules.readOperation? column.dataType = some read)
    (suits : Suits member read)
    (isTyped : read ≠ .getValue)
    (holds : record.Holds ordinal cell)
    (admits : column.Admits cell)
    (fails : compiler.cellValue record ordinal column member = .error error) :
    error.OfContent column.name := by
  rcases admits with typed | ⟨isNull, isNullable⟩
  · rw [cellValue_of_holds column member holds (Value.isNull_of_dataType? typed)] at fails
    exact ofContent_of_readCell readable suits isTyped typed fails
  · rw [cellValue, holds.isNull, isNull, isNullable] at fails
    cases fails

/-! ## The plans of a binder -/

/-- What a plan delivers is of the type that its member declares, and it is delivered on
every row whose cell is of the type of the column, but for what the cell contains. -/
structure DeliversTyped
    (binder : Binder τ)
    (plan : ColumnPlan)
    (column : ColumnDescriptor)
    (member : MemberDescriptor τ) : Prop where
  typed : member.isJson = false → member.declaredType ≠ .object →
    ∃ type, member.declaredType.dataType? = some type ∧
      ∀ {record : RowRecord} {value : Value}, binder.extract record plan = .ok value →
        value.dataType? = some type ∨
          column.isNullable = true ∧ record.isNull plan.ordinal = .ok true ∧
            value = member.zeroValue
  reliable : plan.read ≠ .getValue →
    ∀ {record : RowRecord} {cell : Value} {error : BindError},
      record.Holds plan.ordinal cell → column.Admits cell →
        binder.extract record plan = .error error → error.OfContent plan.column

theorem deliversTyped_of_planColumn
    {binder : Binder τ}
    {plan : ColumnPlan}
    {sink : Sink}
    (extracts : ∀ record, binder.extract record plan =
      plan.extract compiler.codec compiler.config.layouts record)
    (planned : planColumn ordinal column member sink = .ok plan) :
    DeliversTyped binder plan column member := by
  have delivers := delivers_of_planColumn compiler planned
  obtain ⟨readable, suits⟩ := suits_of_planColumn planned
  have extract_eq (record : RowRecord) :
      binder.extract record plan = compiler.cellValue record plan.ordinal column member := by
    rw [extracts, delivers.extract_eq, ordinal_of_planColumn planned]
  constructor
  · intro notJson notObject
    cases suits with
    | json isJson => simp [notJson] at isJson
    | converted _ path chosen =>
        cases targeted : member.declaredType.dataType? with
        | none => simp [ConversionRules.conversion?, targeted] at chosen
        | some type =>
            have typeNotObject : type ≠ .object := by
              rw [ne_eq, MemberType.eq_object_iff, targeted] at notObject
              simpa using notObject
            refine ⟨type, rfl, fun {record value} delivered => ?_⟩
            rw [extract_eq] at delivered
            exact dataType?_of_cellValue targeted typeNotObject notJson delivered
  · intro isTyped record cell error holds admits fails
    rw [extract_eq] at fails
    rw [delivers.column_eq]
    exact ofContent_of_cellValue readable suits isTyped holds admits fails

/-- A plan was made for one of some columns, for the member that the name of the column
is bound to, and its value goes where the values of the member go. -/
def PlannedFrom
    (target : TargetDescriptor τ)
    (goesTo : Nat → MemberDescriptor τ → Sink → Prop)
    (ordinal : Nat)
    (columns : List ColumnDescriptor)
    (plan : ColumnPlan) : Prop :=
  ∃ index column position member sink,
    columns[index]? = some column ∧
      target.findMember? column.name = some (position, member) ∧
        goesTo position member sink ∧
          planColumn (ordinal + index) column member sink = .ok plan

section Plans

variable
  {target : TargetDescriptor τ}
  {goesTo : Nat → MemberDescriptor τ → Sink → Prop}
  {columns : List ColumnDescriptor}
  {plan : ColumnPlan}

theorem Planned.plannedFrom
    {sinkOf : Nat → BoundColumn τ → Sink}
    {plans : List ColumnPlan}
    (planned : Planned sinkOf 0 (target.boundColumns 0 columns) plans)
    (goes : ∀ index bound, (target.boundColumns 0 columns)[index]? = some bound →
      goesTo bound.position bound.member (sinkOf index bound))
    (isPlan : plan ∈ plans) :
    PlannedFrom target goesTo 0 columns plan := by
  obtain ⟨index, isIndex⟩ := List.getElem?_of_mem isPlan
  obtain ⟨bound, isBound, isColumn, isMember, plannedColumn⟩ := planned.exists_bound isIndex
  refine ⟨bound.ordinal, bound.column, bound.position, bound.member, _, isColumn, isMember,
    goes index bound isBound, ?_⟩
  rw [Nat.zero_add]
  exact plannedColumn

theorem plannedFrom_of_planMembers
    {setters : List (Setter τ)}
    {plans : List ColumnPlan}
    (planned : planMembers target 0 0 columns = .ok (plans, setters)) :
    ∀ plan ∈ plans,
      PlannedFrom target
        (fun _ member sink => ∃ index setter, sink = .member index ∧
          member.setter = some setter ∧ setters[index]? = some setter)
        0 columns plan := by
  obtain ⟨isPlanned, areSetters⟩ := planned_of_planMembers planned
  refine fun plan isPlan => isPlanned.plannedFrom (fun index bound isBound => ?_) isPlan
  have isSetter := congrArg (·[index]?) areSetters
  simp only [List.getElem?_map, isBound, Option.map_some] at isSetter
  obtain ⟨setter, isIndex, same⟩ := Option.map_eq_some_iff.mp isSetter.symm
  exact ⟨index, setter, rfl, same.symm, isIndex⟩

theorem plannedFrom_of_planSlots
    {config : BindingConfig}
    {plans : List ColumnPlan}
    (planned : planSlots config target 0 columns = .ok plans) :
    ∀ plan ∈ plans,
      PlannedFrom target (fun position _ sink => sink = .slot position) 0 columns plan :=
  fun _ isPlan => (planned_of_planSlots 0 planned).plannedFrom (fun _ _ _ => rfl) isPlan

theorem getElem?_of_findMember?
    {name : String}
    {position : Nat}
    (found : target.findMember? name = some (position, member)) :
    target.members[position]? = some member := by
  unfold TargetDescriptor.findMember? at found
  split at found
  · obtain ⟨other, isMember, same⟩ := Option.map_eq_some_iff.mp found
    cases same
    exact isMember
  · cases found

end Plans

/-- The value of a plan goes to a member: to its setter, into its slot, or to the factory
of the scalar that it is. -/
def Feeds
    (binder : Binder τ)
    (target : TargetDescriptor τ)
    (plan : ColumnPlan)
    (member : MemberDescriptor τ) : Prop :=
  match binder.construction, plan.sink with
  | .members _ setters, .member index =>
      ∃ setter, member.setter = some setter ∧ setters[index]? = some setter
  | .positional _ _, .slot position => target.members[position]? = some member
  | .scalar _, .scalar => target.members.head? = some member
  | _, _ => False

/-- A plan for the member that a name is bound to delivers what the member declares. -/
theorem PlannedFrom.deliversTyped
    {target : TargetDescriptor τ}
    {goesTo : Nat → MemberDescriptor τ → Sink → Prop}
    {schema : RowSchema}
    {binder : Binder τ}
    {plan : ColumnPlan}
    (isPlanned : PlannedFrom target goesTo 0 schema.columns plan)
    (notScalar : ∀ make, target.factory ≠ .scalar make)
    (extracts : ∀ record, binder.extract record plan =
      plan.extract compiler.codec compiler.config.layouts record)
    (feeds : ∀ {position : Nat} {member : MemberDescriptor τ},
      target.members[position]? = some member → goesTo position member plan.sink →
        Feeds binder target plan member) :
    ∃ column member, Binds target schema plan.ordinal column member ∧
      Feeds binder target plan member ∧ DeliversTyped binder plan column member := by
  obtain ⟨index, column, position, member, sink, isColumn, isMember, goes, planned⟩ := isPlanned
  have isOrdinal := ordinal_of_planColumn planned
  rw [Nat.zero_add] at isOrdinal
  have sink_eq := (delivers_of_planColumn compiler planned).sink_eq
  refine ⟨column, member, ⟨isOrdinal ▸ isColumn, ?_⟩,
    feeds (getElem?_of_findMember? isMember) (sink_eq ▸ goes),
    deliversTyped_of_planColumn extracts planned⟩
  cases made : target.factory with
  | members allocated => exact ⟨position, isMember⟩
  | positional construct => exact ⟨position, isMember⟩
  | scalar make => exact absurd made (notScalar make)

/-- Every plan of a compiled binder delivers values of the type that its member declares,
and fails on well-typed cells only for what they contain. -/
theorem deliversTyped_of_build
    {typeName : String}
    {target : TargetDescriptor τ}
    {schema : RowSchema}
    {binder : Binder τ}
    {plan : ColumnPlan}
    (compiles : compiler.build typeName target schema = .ok binder)
    (isPlan : plan ∈ binder.plans) :
    ∃ column member, Binds target schema plan.ordinal column member ∧
      Feeds binder target plan member ∧ DeliversTyped binder plan column member := by
  unfold build at compiles
  cases made : target.factory with
  | members allocated =>
      simp only [made] at compiles
      obtain ⟨⟨plans, setters⟩, planned, compiles⟩ := Outcome.bind_eq_ok_iff.mp compiles
      cases compiles
      have fromStart : planMembers target 0 ([] : List (Setter τ)).length schema.columns =
          .ok (plans, setters) := planned
      refine (plannedFrom_of_planMembers fromStart plan isPlan).deliversTyped
        (by simp [made]) (fun _ => rfl) fun _ goes => ?_
      obtain ⟨index, setter, sink_eq, assignable, isSetter⟩ := goes
      simp only [Feeds, sink_eq]
      exact ⟨setter, assignable, isSetter⟩
  | positional construct =>
      simp only [made] at compiles
      obtain ⟨plans, planned, compiles⟩ := Outcome.bind_eq_ok_iff.mp compiles
      cases compiles
      refine (plannedFrom_of_planSlots planned plan isPlan).deliversTyped
        (by simp [made]) (fun _ => rfl) fun isMember sink_eq => ?_
      simp only [Feeds, sink_eq]
      exact isMember
  | scalar make =>
      simp only [made] at compiles
      obtain ⟨plans, planned, compiles⟩ := Outcome.bind_eq_ok_iff.mp compiles
      obtain ⟨column, columns, member, members, first, isColumn, isMember, plannedColumn,
        rfl⟩ := planScalar_eq_ok planned
      cases compiles
      obtain rfl := List.mem_singleton.mp isPlan
      have isOrdinal := ordinal_of_planColumn plannedColumn
      have sink_eq := (delivers_of_planColumn compiler plannedColumn).sink_eq
      have isHead : target.members.head? = some member := congrArg List.head? isMember
      refine ⟨column, member, ⟨?_, ?_⟩, ?_,
        deliversTyped_of_planColumn (fun _ => rfl) plannedColumn⟩
      · rw [isOrdinal, isColumn]
        rfl
      · rw [made]
        exact ⟨isOrdinal, isHead⟩
      · simp only [Feeds, sink_eq]
        exact isHead

/-- A schema with the numbers of labelled numbers as texts. -/
def textNumberSchema : RowSchema where
  columns := [⟨"Number", .string, some false⟩]

/-- A row of one text. -/
def textRow (text : String) : RowRecord where
  isNull _ := .ok false
  value _ := .ok (.string text)

/-- A text comes to a whole number as one, and fails if it does not read as one. -/
theorem typed_textRow :
    ∃ binder plan,
      ({} : Compiler).build "LabelledNumber" labelledNumber textNumberSchema = .ok binder ∧
        plan ∈ binder.plans ∧
          (∃ value, binder.extract (textRow "7") plan = .ok value ∧
            value.dataType? = some (.integer .int64)) ∧
          ∃ error, binder.extract (textRow "seven") plan = .error error ∧
            error.OfContent "Number" := by
  obtain ⟨binder, plan, compiles, isPlan, isOrdinal, isTyped, named, reads, fails⟩ :
      ∃ binder plan,
        ({} : Compiler).build "LabelledNumber" labelledNumber textNumberSchema = .ok binder ∧
          plan ∈ binder.plans ∧ plan.ordinal = 0 ∧ plan.read = .getString ∧
            plan.column = "Number" ∧
              binder.extract (textRow "7") plan =
                .ok (.integer ⟨.int64, 7, by decide⟩) ∧
              binder.extract (textRow "seven") plan =
                .error (.conversion "Number" (.parse "seven" "Int64")) :=
    ⟨_, _, rfl, List.mem_cons_self, rfl, rfl, rfl, rfl, rfl⟩
  obtain ⟨column, member, ⟨isColumn, position, isMember⟩, _, delivers⟩ :=
    deliversTyped_of_build compiles isPlan
  rw [isOrdinal] at isColumn
  cases isColumn
  cases isMember
  refine ⟨binder, plan, compiles, isPlan, ⟨_, reads, ?_⟩, _, fails, ?_⟩
  · obtain ⟨type, isType, typed⟩ := delivers.typed rfl (by decide)
    cases isType
    exact (typed reads).resolve_right fun isNull => by cases isNull.1
  · have ofContent := delivers.reliable (by simp [isTyped]) ⟨rfl, rfl⟩ (.inl rfl) fails
    rwa [named] at ofContent

end Compiler
end RowBinding
