import RowBinding.Binding.RowInterpreter
import RowBinding.Proofs.Outcome

/-!
# Interpreted rows

A binder fixes for the schema what the interpreter looks up on every row: the
ordinal of a column, the way its cell is read and converted, and the setter or
the slot that takes the value. Each planned column delivers the value that the
interpreter computes for it, so a compiled binder makes the same object of
every row, or fails in the same way.
-/

namespace RowBinding

variable {τ : Type}

/-! ## Reading and converting a cell -/

theorem ReadOperation.dataType?_of_accepts
    {read : ReadOperation}
    {cell : Value}
    (accepted : read.accepts cell = true) :
    read.resultType = .object ∨ cell.dataType? = some read.resultType := by
  rcases (by simpa [accepts] using accepted :
    read = .getValue ∨ cell.dataType? = some read.resultType) with readsAll | typed
  · subst readsAll
    exact .inl rfl
  · exact .inr typed

/-- What is read as a float or as a decimal has a numeric text. -/
theorem ReadOperation.numericText?_of_accepts
    {read : ReadOperation}
    {cell : Value}
    (normalizes : read.normalizesNumeric = true)
    (accepted : read.accepts cell = true) :
    ∃ text, cell.numericText? = some text := by
  have typed := (dataType?_of_accepts accepted).resolve_left
    (by cases read <;> simp [normalizesNumeric, resultType] at normalizes ⊢)
  cases read with
  | getFloat | getDouble | getDecimal =>
      cases cell <;> simp [Value.dataType?, resultType, Value.numericText?] at typed ⊢
  | _ => simp [normalizesNumeric] at normalizes

/-- The value that a path makes of a value. -/
def ConversionPath.run (layouts : List String) (value : Value) :
    ConversionPath → Except ValueError Value
  | .identity => .ok value
  | .convert target => value.convert layouts target

/-- The path that is chosen for a source type converts values of that type. -/
theorem ConversionPath.run_of_conversion?
    {source : DataType}
    {type : MemberType}
    {path : ConversionPath}
    {value : Value}
    (layouts : List String)
    (chosen : ConversionRules.conversion? source type = some path)
    (typed : source = .object ∨ value.dataType? = some source) :
    ∃ target, type.dataType? = some target ∧
      path.run layouts value = value.convert layouts target := by
  unfold ConversionRules.conversion? at chosen
  cases named : type.dataType? with
  | none => simp [named] at chosen
  | some target =>
      refine ⟨target, rfl, ?_⟩
      simp only [named] at chosen
      split at chosen
      · next unchanged =>
          cases chosen
          rcases (by simpa using unchanged : target = .object ∨ target = source)
            with rfl | rfl
          · exact (Value.convert_object layouts value).symm
          · rcases typed with rfl | same
            · exact (Value.convert_object layouts value).symm
            · exact (Value.convert_of_dataType? layouts same).symm
      · split at chosen
        · cases chosen
          rfl
        · cases chosen

theorem MemberType.eq_object_iff (type : MemberType) :
    type = .object ↔ type.dataType? = some .object := by
  constructor
  · rintro rfl
    rfl
  · intro named
    cases type with
    | primitive type notTime =>
        cases named
        rfl
    | custom name => cases named

/-- A member of another type than objects takes what its cell converts to. -/
theorem Compiler.convertedCell_of_ne_object
    {compiler : Compiler}
    {column : ColumnDescriptor}
    {read : ReadOperation}
    {type : MemberType}
    {cell : Value}
    {target : DataType}
    (targeted : type.dataType? = some target)
    (notObject : target ≠ .object) :
    compiler.convertedCell column read type cell =
      ((((if read.normalizesNumeric then cell.numericText? else none).map .string).getD
        cell).convert compiler.config.layouts target).mapError (.conversion column.name) := by
  unfold convertedCell
  rw [targeted]
  cases target with
  | object => exact absurd rfl notObject
  | _ => rfl

/-! ## Planned columns -/

namespace ColumnPlan

theorem convertRaw_eq_mapError (plan : ColumnPlan) (layouts : List String) (raw : Value) :
    plan.convertRaw layouts raw =
      (plan.path.run layouts (plan.normalized raw)).mapError (.conversion plan.column) := by
  unfold convertRaw
  cases plan.path with
  | identity => rfl
  | convert target =>
      dsimp only [ConversionPath.run]
      cases (plan.normalized raw).convert layouts target <;> rfl

/-- The plan delivers to its sink what a column of a row delivers to a member. -/
structure Delivers
    (plan : ColumnPlan)
    (compiler : Compiler)
    (ordinal : Nat)
    (column : ColumnDescriptor)
    (member : MemberDescriptor τ)
    (sink : Sink) : Prop where
  column_eq : plan.column = column.name
  sink_eq : plan.sink = sink
  extract_eq : ∀ record,
    plan.extract compiler.codec compiler.config.layouts record =
      compiler.cellValue record ordinal column member

theorem normalized_eq_getD (plan : ColumnPlan) (raw : Value) :
    plan.normalized raw =
      ((if plan.normalizes then raw.numericText? else none).map .string).getD raw := by
  unfold normalized
  split
  · cases raw.numericText? <;> rfl
  · rfl

/-- What a plan converts is of the type that its path is chosen for. -/
theorem normalized_typed
    {plan : ColumnPlan}
    {cell : Value}
    (normalizing : plan.normalizes = true → plan.read.normalizesNumeric = true)
    (accepted : plan.read.accepts cell = true) :
    (if plan.normalizes then DataType.string else plan.read.resultType) = .object ∨
      (plan.normalized cell).dataType? =
        some (if plan.normalizes then .string else plan.read.resultType) := by
  unfold normalized
  by_cases normalizes : plan.normalizes = true
  · obtain ⟨text, isText⟩ :=
      ReadOperation.numericText?_of_accepts (normalizing normalizes) accepted
    rw [if_pos normalizes, if_pos normalizes, isText]
    exact .inr rfl
  · rw [if_neg normalizes, if_neg normalizes]
    exact ReadOperation.dataType?_of_accepts accepted

theorem convertRaw_eq_convertedCell
    {plan : ColumnPlan}
    {compiler : Compiler}
    {column : ColumnDescriptor}
    {type : MemberType}
    {cell : Value}
    (named : plan.column = column.name)
    (normalizes_eq : plan.normalizes =
      (plan.read.normalizesNumeric && type != .object))
    (chosen : ConversionRules.conversion?
      (if plan.normalizes then .string else plan.read.resultType) type = some plan.path)
    (accepted : plan.read.accepts cell = true) :
    plan.convertRaw compiler.config.layouts cell =
      compiler.convertedCell column plan.read type cell := by
  have normalizing : plan.normalizes = true → plan.read.normalizesNumeric = true := by
    intro normalizes
    rw [normalizes_eq, Bool.and_eq_true] at normalizes
    exact normalizes.1
  obtain ⟨target, targeted, converts⟩ :=
    ConversionPath.run_of_conversion? compiler.config.layouts chosen
      (normalized_typed normalizing accepted)
  rw [convertRaw_eq_mapError, converts, named]
  -- Only a member of the object type takes a float or a decimal without its text.
  by_cases isObject : target = .object
  · subst isObject
    have unchanged : plan.normalizes = false := by
      rw [normalizes_eq, (MemberType.eq_object_iff type).mpr targeted, bne_self_eq_false,
        Bool.and_false]
    rw [Value.convert_object, normalized, unchanged, Compiler.convertedCell, targeted]
    rfl
  · have notObject : (type != .object) = true := by
      rw [bne_iff_ne, ne_eq, MemberType.eq_object_iff, targeted]
      simpa using isObject
    rw [Compiler.convertedCell_of_ne_object targeted isObject, normalized_eq_getD,
      normalizes_eq, notObject, Bool.and_true]

theorem decodeJson_string
    {plan : ColumnPlan}
    {compiler : Compiler}
    {column : ColumnDescriptor}
    {member : MemberDescriptor τ}
    (named : plan.column = column.name)
    (typed : plan.memberType = member.declaredType)
    (zero : plan.zero = member.zeroValue)
    (text : String) :
    plan.decodeJson compiler.codec (.string text) =
      compiler.jsonCell column member text := by
  unfold decodeJson Compiler.jsonCell
  rw [named, typed, zero]
  dsimp only
  cases compiler.codec.decode text member.declaredType <;> rfl

/-- A plan that decodes or converts as its member says reads a cell likewise. -/
theorem extractRaw_eq_readCell
    {plan : ColumnPlan}
    {compiler : Compiler}
    {column : ColumnDescriptor}
    {member : MemberDescriptor τ}
    {cell : Value}
    (readable : ConversionRules.readOperation? column.dataType = some plan.read)
    (named : plan.column = column.name)
    (typed : plan.memberType = member.declaredType)
    (zero : plan.zero = member.zeroValue)
    (isJson : plan.isJson = member.isJson)
    (converts : member.isJson = false → plan.read.accepts cell = true →
      plan.convertRaw compiler.config.layouts cell =
        compiler.convertedCell column plan.read member.declaredType cell) :
    plan.extractRaw compiler.codec compiler.config.layouts cell =
      compiler.readCell column member cell := by
  have refuses : plan.readError cell =
      .columnRead column.name plan.read.resultType.name cell.typeName := by
    rw [readError, named]
  unfold extractRaw Compiler.readCell
  rw [readable, isJson]
  dsimp only
  cases accepted : plan.read.accepts cell with
  | false => exact congrArg Except.error refuses
  | true =>
      cases json : member.isJson with
      | false => exact converts json accepted
      | true =>
          cases cell with
          | string text => exact decodeJson_string named typed zero text
          | _ => exact congrArg Except.error refuses

theorem extract_eq_cellValue
    {plan : ColumnPlan}
    {compiler : Compiler}
    {column : ColumnDescriptor}
    {member : MemberDescriptor τ}
    (guards : plan.guardsNull = column.isNullable)
    (zero : plan.zero = member.zeroValue)
    (reads : ∀ cell,
      plan.extractRaw compiler.codec compiler.config.layouts cell =
        compiler.readCell column member cell)
    (record : RowRecord) :
    plan.extract compiler.codec compiler.config.layouts record =
      compiler.cellValue record plan.ordinal column member := by
  unfold extract Compiler.cellValue
  rw [guards, zero, funext reads]

end ColumnPlan

namespace Compiler

/-- A planned column delivers what the interpreter computes for it. -/
theorem delivers_of_planColumn
    {ordinal : Nat}
    {column : ColumnDescriptor}
    {member : MemberDescriptor τ}
    {sink : Sink}
    {plan : ColumnPlan}
    (compiler : Compiler)
    (planned : planColumn ordinal column member sink = .ok plan) :
    plan.Delivers compiler ordinal column member sink := by
  unfold planColumn at planned
  cases readable : ConversionRules.readOperation? column.dataType with
  | none => simp [readable] at planned
  | some read =>
      simp only [readable] at planned
      split at planned
      · next isJson =>
          split at planned
          · cases planned
            exact ⟨rfl, rfl, ColumnPlan.extract_eq_cellValue rfl rfl fun cell =>
              ColumnPlan.extractRaw_eq_readCell readable rfl rfl rfl isJson.symm
                fun notJson => absurd isJson (by simp [notJson])⟩
          · cases planned
      · next notJson =>
          split at planned
          · next path chosen =>
              cases planned
              exact ⟨rfl, rfl, ColumnPlan.extract_eq_cellValue rfl rfl fun cell =>
                ColumnPlan.extractRaw_eq_readCell readable rfl rfl rfl
                  (by simpa using notJson)
                  fun _ => ColumnPlan.convertRaw_eq_convertedCell rfl rfl chosen⟩
          · cases planned

/-! ## Compiled binders -/

variable {compiler : Compiler} {target : TargetDescriptor τ} {binder : Binder τ}

theorem assign_of_delivers
    {record : RowRecord}
    {plan : ColumnPlan}
    {ordinal index : Nat}
    {column : ColumnDescriptor}
    {member : MemberDescriptor τ}
    {setters : List (Setter τ)}
    {setter : Setter τ}
    {object : τ}
    (extracts : binder.extract record plan =
      plan.extract compiler.codec compiler.config.layouts record)
    (delivers : plan.Delivers compiler ordinal column member (.member index))
    (assignable : setters[index]? = some setter) :
    binder.assign setters record object plan = (do
      let value ← compiler.cellValue record ordinal column member
      (setter object value).mapError (.member column.name)) := by
  unfold Binder.assign
  rw [extracts, delivers.extract_eq, delivers.sink_eq, delivers.column_eq]
  simp only [assignable]

/-- Assigning what the plans of the columns deliver assigns their cells. -/
theorem foldlM_assign_of_planMembers
    {record : RowRecord}
    (extracts : ∀ plan, binder.extract record plan =
      plan.extract compiler.codec compiler.config.layouts record)
    {columns : List ColumnDescriptor} :
    ∀ {ordinal : Nat}
      {earlier setters : List (Setter τ)}
      {plans : List ColumnPlan}
      {object : τ},
      planMembers target ordinal earlier.length columns = .ok (plans, setters) →
        plans.foldlM (binder.assign (earlier ++ setters) record) object =
          compiler.assignCells target record ordinal object columns := by
  -- The sinks of these columns count on from the setters of the earlier ones.
  induction columns with
  | nil =>
      intro ordinal earlier setters plans object planned
      cases planned
      rfl
  | cons column rest inductionHypothesis =>
      intro ordinal earlier setters plans object planned
      unfold planMembers at planned
      unfold assignCells
      cases matched : target.findMember? column.name with
      | none =>
          simp only [matched] at planned
          exact inductionHypothesis planned
      | some placed =>
          obtain ⟨position, member⟩ := placed
          simp only [matched] at planned
          dsimp only
          cases assignable : member.setter with
          | none => simp [assignable] at planned
          | some setter =>
              simp only [assignable] at planned ⊢
              obtain ⟨plan, plannedColumn, planned⟩ := Outcome.bind_eq_ok_iff.mp planned
              obtain ⟨⟨laterPlans, laterSetters⟩, plannedRest, planned⟩ :=
                Outcome.bind_eq_ok_iff.mp planned
              cases planned
              have delivers := delivers_of_planColumn compiler plannedColumn
              have found : (earlier ++ setter :: laterSetters)[earlier.length]? =
                  some setter := by
                simp
              have continued : planMembers target (ordinal + 1)
                  (earlier ++ [setter]).length rest = .ok (laterPlans, laterSetters) := by
                rw [List.length_append]
                exact plannedRest
              rw [List.foldlM_cons, assign_of_delivers (extracts plan) delivers found,
                bind_assoc]
              refine congrArg _ (funext fun value => congrArg _ (funext fun assigned => ?_))
              rw [← inductionHypothesis continued, List.append_assoc]
              rfl

theorem fill_of_delivers
    {record : RowRecord}
    {plan : ColumnPlan}
    {ordinal position : Nat}
    {column : ColumnDescriptor}
    {member : MemberDescriptor τ}
    {arguments : List Value}
    (extracts : binder.extract record plan =
      plan.extract compiler.codec compiler.config.layouts record)
    (delivers : plan.Delivers compiler ordinal column member (.slot position)) :
    binder.fill record arguments plan = (do
      let value ← compiler.cellValue record ordinal column member
      return arguments.set position value) := by
  unfold Binder.fill
  rw [extracts, delivers.extract_eq, delivers.sink_eq]

/-- Filling the slots with what the plans deliver fills in the cells. -/
theorem foldlM_fill_of_planSlots
    {record : RowRecord}
    {config : BindingConfig}
    (extracts : ∀ plan, binder.extract record plan =
      plan.extract compiler.codec compiler.config.layouts record)
    {columns : List ColumnDescriptor} :
    ∀ {ordinal : Nat} {plans : List ColumnPlan} {arguments : List Value},
      planSlots config target ordinal columns = .ok plans →
        plans.foldlM (binder.fill record) arguments =
          compiler.fillCells target record ordinal arguments columns := by
  induction columns with
  | nil =>
      intro ordinal plans arguments planned
      cases planned
      rfl
  | cons column rest inductionHypothesis =>
      intro ordinal plans arguments planned
      unfold planSlots at planned
      unfold fillCells
      cases matched : target.findMember? column.name with
      | none =>
          simp only [matched] at planned
          obtain ⟨_, _, plannedRest⟩ := Outcome.bind_eq_ok_iff.mp planned
          exact inductionHypothesis plannedRest
      | some placed =>
          obtain ⟨position, member⟩ := placed
          simp only [matched] at planned
          dsimp only
          obtain ⟨plan, plannedColumn, planned⟩ := Outcome.bind_eq_ok_iff.mp planned
          obtain ⟨laterPlans, plannedRest, planned⟩ := Outcome.bind_eq_ok_iff.mp planned
          cases planned
          have delivers := delivers_of_planColumn compiler plannedColumn
          rw [List.foldlM_cons, fill_of_delivers (extracts plan) delivers, bind_assoc]
          exact congrArg _ (funext fun value => inductionHypothesis plannedRest)

/-- A scalar target has one plan, for its member on the first column. -/
theorem planScalar_eq_ok
    {schema : RowSchema}
    {plans : List ColumnPlan}
    (planned : planScalar target schema = .ok plans) :
    ∃ column columns member members plan,
      schema.columns = column :: columns ∧ target.members = member :: members ∧
        planColumn 0 column member .scalar = .ok plan ∧ plans = [plan] := by
  unfold planScalar at planned
  split at planned
  · next column columns member members isColumn isMember =>
      cases plannedColumn : planColumn 0 column member .scalar with
      | error error => simp [plannedColumn, Except.map] at planned
      | ok plan =>
          rw [plannedColumn] at planned
          cases planned
          exact ⟨column, columns, member, members, plan, isColumn, isMember,
            plannedColumn, rfl⟩
  · cases planned

section Compiled

variable
  {compiler : Compiler}
  {typeName : String}
  {target : TargetDescriptor τ}
  {schema : RowSchema}
  {binder : Binder τ}

/-- A compiled binder assigns the cells of a row to the members of a target. -/
theorem bind_eq_assignCells
    {allocated : τ}
    (made : target.factory = .members allocated)
    (compiles : compiler.build typeName target schema = .ok binder)
    (record : RowRecord) :
    binder.bind record = compiler.assignCells target record 0 allocated schema.columns := by
  unfold build at compiles
  simp only [made] at compiles
  obtain ⟨⟨plans, setters⟩, planned, compiles⟩ := Outcome.bind_eq_ok_iff.mp compiles
  cases compiles
  have fromStart : planMembers target 0 ([] : List (Setter τ)).length schema.columns =
      .ok (plans, setters) := planned
  change plans.foldlM (Binder.assign _ setters record) allocated = _
  refine foldlM_assign_of_planMembers (fun plan => ?_) fromStart
  rfl

/-- A compiled binder fills the cells of a row into the slots of a target. -/
theorem bind_eq_fillCells
    {construct : List Value → Except String τ}
    (made : target.factory = .positional construct)
    (compiles : compiler.build typeName target schema = .ok binder)
    (record : RowRecord) :
    binder.bind record = (do
      let arguments ← compiler.fillCells target record 0
        (target.members.map MemberDescriptor.zeroValue) schema.columns
      (construct arguments).mapError (.construct target.identity)) := by
  unfold build at compiles
  simp only [made] at compiles
  obtain ⟨plans, planned, compiles⟩ := Outcome.bind_eq_ok_iff.mp compiles
  cases compiles
  change (plans.foldlM (Binder.fill _ record) _ >>= _) = _
  rw [foldlM_fill_of_planSlots (fun plan => ?_) planned]
  · rfl
  · rfl

end Compiled

/-- A compiled binder makes of every row what the interpreter makes of it, and
fails with the same error where the interpreter fails. A scalar target takes the
first column without looking its name up. -/
theorem bind_eq_interpretRow
    {compiler : Compiler}
    {typeName : String}
    {target : TargetDescriptor τ}
    {schema : RowSchema}
    {binder : Binder τ}
    (compiles : compiler.build typeName target schema = .ok binder)
    (record : RowRecord) :
    binder.bind record = compiler.interpretRow target schema record := by
  unfold interpretRow
  cases made : target.factory with
  | members allocated => exact bind_eq_assignCells made compiles record
  | positional construct => exact bind_eq_fillCells made compiles record
  | scalar make =>
      unfold build at compiles
      simp only [made] at compiles
      obtain ⟨plans, planned, compiles⟩ := Outcome.bind_eq_ok_iff.mp compiles
      obtain ⟨column, columns, member, members, plan, isColumn, isMember, plannedColumn,
        rfl⟩ := planScalar_eq_ok planned
      cases compiles
      have delivers := delivers_of_planColumn compiler plannedColumn
      rw [isColumn, isMember]
      exact congrArg (· >>= _) (delivers.extract_eq record)

/-- A target of a number and a text, which are assigned to a pair. -/
def labelledNumber : TargetDescriptor (Value × Value) where
  identity := "LabelledNumber"
  members :=
    [{ name := "Number"
       declaredType := .primitive (.integer .int64) (by decide)
       setter := some fun target value => .ok (value, target.2) },
      { name := "Label"
        declaredType := .primitive .string (by decide)
        setter := some fun target value => .ok (target.1, value) }]
  factory := .members (.null, .null)

/-- A schema with a column that has no member between two that have one. -/
def labelledNumberSchema : RowSchema where
  columns := [⟨"LABEL", .string, none⟩, ⟨"Unused", .guid, some false⟩,
    ⟨"Number", .boolean, some false⟩]

/-- A row without a label. -/
def unlabelledRow : RowRecord where
  isNull ordinal := .ok (ordinal = 0)
  value ordinal := if ordinal = 2 then .ok (.boolean true) else .ok .null

theorem bind_unlabelledRow :
    ∃ binder,
      ({} : Compiler).build "LabelledNumber" labelledNumber labelledNumberSchema =
          .ok binder ∧
        binder.bind unlabelledRow =
          ({} : Compiler).interpretRow labelledNumber labelledNumberSchema unlabelledRow ∧
        binder.bind unlabelledRow = .ok (.integer ⟨.int64, 1, by decide⟩, .null) :=
  ⟨_, rfl, bind_eq_interpretRow rfl unlabelledRow, rfl⟩

end Compiler

end RowBinding
