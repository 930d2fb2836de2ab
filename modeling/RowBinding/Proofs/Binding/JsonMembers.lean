import RowBinding.Proofs.Binding.NumbersAsTruth
import RowBinding.Proofs.Text.Digits

/-!
# JSON members of typed documents

The texts of a JSON member are decoded, and its setter reads the documents in a
type. Null and blank texts stand for the zero of the member, which the setter
takes for the default of the type only if it is null.

The zero of a member is that of the type it declares, whether it is JSON or not.
So a member that cannot be null and is declared as a truth value, a number, a
character, a point in time or an identifier fails on null and on blank texts.
-/

namespace RowBinding

variable {τ α : Type}

/-! ## Typed documents -/

/-- A type that is read from JSON documents and from their texts. -/
structure DocumentType (α : Type) where
  default : α
  ofDocument? : Json → Option α
  ofText? : String → Option α

namespace DocumentType

/-- What is read, or the failure of a document that is not of the type. -/
def orRefused : Option α → Except ValueError α
  | some received => .ok received
  | none => .error .json

/-- Receive a value in a type of documents. -/
def receive (type : DocumentType α) : Value → Except ValueError α
  | .null => .ok type.default
  | .json document => orRefused (type.ofDocument? document)
  | .string text => orRefused (type.ofText? text)
  | cell => .error (.typeMismatch "Json" cell.typeName)

/-- The setter of a member that receives values in a type of documents. -/
def setter (type : DocumentType α) (set : τ → α → τ) : Setter τ :=
  fun target value =>
    match type.receive value with
    | .ok received => .ok (set target received)
    | .error error => .error error.message

theorem setter_json_eq_ok_iff
    {type : DocumentType α}
    {set : τ → α → τ}
    {object assigned : τ}
    {document : Json} :
    type.setter set object (.json document) = .ok assigned ↔
      ∃ received, type.ofDocument? document = some received ∧ assigned = set object received := by
  rw [setter, receive]
  cases type.ofDocument? document with
  | none => simp [orRefused]
  | some received => simp [orRefused, eq_comm]

/-- A value of a column type other than texts is no document. -/
theorem setter_of_dataType?
    {value : Value}
    {target : DataType}
    (typed : value.dataType? = some target)
    (notObject : target ≠ .object)
    (notText : target ≠ .string)
    (type : DocumentType α)
    (set : τ → α → τ)
    (object : τ) :
    type.setter set object value =
      .error (ValueError.typeMismatch "Json" value.typeName).message := by
  cases value with
  | null => cases typed
  | string => exact absurd (Option.some.inj typed).symm notText
  | json | list | record | quoted => exact absurd (Option.some.inj typed).symm notObject
  | _ => rfl

end DocumentType

/-- The documents of a shape. -/
def JsonShape.documentType (shape : JsonShape) : DocumentType Json where
  default := shape.default
  ofDocument? document := if shape.fits document then some document else none
  ofText? text := (Json.read? text).bind fun document =>
    if shape.fits document then some document else none

/-- Receiving in a shape is receiving in the type of its documents. -/
theorem BoundType.receive_shaped (shape : JsonShape) (cell : Value) :
    (BoundType.shaped shape).receive cell =
      (shape.documentType.receive cell).map Value.json := by
  have ofDocument (document : Json) :
      shape.read document = DocumentType.orRefused
        (if shape.fits document then some document else none) := by
    unfold JsonShape.read
    split <;> rfl
  cases cell with
  | json document => exact congrArg (Except.map Value.json) (ofDocument document)
  | string text =>
      have isText : shape.documentType.ofText? text =
          (Json.read? text).bind shape.documentType.ofDocument? := rfl
      rw [receive, DocumentType.receive, isText]
      cases Json.read? text with
      | none => rfl
      | some document => exact congrArg (Except.map Value.json) (ofDocument document)
  | _ => rfl

theorem MemberDescriptor.setter_assign_shaped
    (name : String)
    (declaredType : MemberType)
    (shape : JsonShape)
    (set : τ → Value → τ) :
    (assign name declaredType (.shaped shape) set).setter =
      some (shape.documentType.setter fun target document => set target (.json document)) := by
  refine congrArg some (funext fun target => funext fun value => ?_)
  rw [DocumentType.setter, BoundType.receive_shaped]
  cases shape.documentType.receive value <;> rfl

/-! ## Decoded texts -/

namespace JsonCodec

variable {explain : String → String}

theorem isBlank_standard_iff {text : String} :
    (standard explain).isBlank text = true ↔ ∀ char ∈ text.toList, Text.isBlank char = true := by
  rw [standard, List.isEmpty_iff, Text.trimChars_eq_nil_iff]

theorem decode_standard_eq_ok_iff
    {text : String}
    {type : MemberType}
    {value : Value} :
    (standard explain).decode text type = .ok value ↔
      ∃ document, Json.read? text = some document ∧ value = .json document := by
  unfold standard
  dsimp only
  cases Json.read? text <;> simp [eq_comm]

end JsonCodec

/-! ## Zeros of members -/

/-- The column types without a zero of their own. -/
def DataType.LacksZero : DataType → Prop
  | .object | .string | .bytes | .time => True
  | _ => False

/-- A member can be null, or its declared type has no zero of its own. -/
def MemberDescriptor.HasNullZero (member : MemberDescriptor τ) : Prop :=
  member.isNullable = true ∨
    ∀ type, member.declaredType.dataType? = some type → type.LacksZero

theorem DataType.zeroValue_cases (type : DataType) :
    type.LacksZero ∧ type.zeroValue = .null ∨
      ¬ type.LacksZero ∧ type.zeroValue.dataType? = some type ∧
        type.zeroValue.typeName = type.name := by
  cases type with
  | object | string | bytes | time => exact .inl ⟨trivial, rfl⟩
  | _ => exact .inr ⟨id, rfl, rfl⟩

namespace MemberDescriptor

variable {member : MemberDescriptor τ}

theorem HasNullZero.zeroValue_eq (hasNullZero : member.HasNullZero) :
    member.zeroValue = .null := by
  unfold MemberDescriptor.zeroValue
  split
  · rfl
  · next notNullable =>
      have lacks := hasNullZero.resolve_left notNullable
      cases declared : member.declaredType with
      | custom name => rfl
      | primitive type notTime =>
          rw [declared] at lacks
          exact (type.zeroValue_cases.resolve_right fun hasZero => hasZero.1 (lacks type rfl)).2

/-- A setter of documents refuses the zero of a member whose type has one. -/
theorem setter_zeroValue
    (hasZero : ¬ member.HasNullZero)
    (type : DocumentType α)
    (set : τ → α → τ)
    (object : τ) :
    type.setter set object member.zeroValue =
      .error (ValueError.typeMismatch "Json" member.declaredType.name).message := by
  rw [HasNullZero, not_or, Bool.not_eq_true] at hasZero
  obtain ⟨notNullable, notLacking⟩ := hasZero
  cases declared : member.declaredType with
  | custom name =>
      rw [declared] at notLacking
      exact absurd nofun notLacking
  | primitive declaredType notTime =>
      have notLacks : ¬ declaredType.LacksZero := fun lacks => notLacking fun other isOther => by
        rw [declared] at isOther
        cases isOther
        exact lacks
      obtain ⟨_, typed, named⟩ :=
        declaredType.zeroValue_cases.resolve_left fun lacks => notLacks lacks.1
      have isZero : member.zeroValue = declaredType.zeroValue := by
        rw [MemberDescriptor.zeroValue, notNullable, declared]
        rfl
      rw [isZero, DocumentType.setter_of_dataType? typed, named]
      · rfl
      · rintro rfl
        exact notLacks trivial
      · rintro rfl
        exact notLacks trivial

end MemberDescriptor

namespace Compiler

/-! ## Assigning cells -/

/-- Assign the cell of a column to its member with a setter. -/
def assignCell
    (compiler : Compiler)
    (record : RowRecord)
    (ordinal : Nat)
    (column : ColumnDescriptor)
    (member : MemberDescriptor τ)
    (setter : Setter τ)
    (object : τ) : Except BindError τ := do
  let value ← compiler.cellValue record ordinal column member
  (setter object value).mapError (.member column.name)

theorem assignCells_append
    {compiler : Compiler}
    {target : TargetDescriptor τ}
    {record : RowRecord}
    (before after : List ColumnDescriptor) :
    ∀ {ordinal : Nat} {object : τ},
      compiler.assignCells target record ordinal object (before ++ after) = (do
        let assigned ← compiler.assignCells target record ordinal object before
        compiler.assignCells target record (ordinal + before.length) assigned after) := by
  induction before with
  | nil => exact rfl
  | cons column before inductionHypothesis =>
      intro ordinal object
      have isBehind : ordinal + (column :: before).length = ordinal + 1 + before.length := by
        rw [List.length_cons]
        omega
      rw [List.cons_append, assignCells, assignCells, isBehind]
      cases target.findMember? column.name with
      | none => exact inductionHypothesis
      | some placed =>
          dsimp only
          rw [bind_assoc]
          refine congrArg _ (funext fun value => ?_)
          cases placed.2.setter with
          | none => rfl
          | some setter =>
              dsimp only
              rw [bind_assoc]
              exact congrArg _ (funext fun assigned => inductionHypothesis)

/-- A row assigns the cells of earlier columns, the cell of a column, and those of later ones. -/
theorem bind_eq_assignCell
    {compiler : Compiler}
    {typeName : String}
    {target : TargetDescriptor τ}
    {allocated : τ}
    {schema : RowSchema}
    {binder : Binder τ}
    {before after : List ColumnDescriptor}
    {column : ColumnDescriptor}
    {position : Nat}
    {member : MemberDescriptor τ}
    {setter : Setter τ}
    (compiles : compiler.build typeName target schema = .ok binder)
    (isAssigned : target.factory = .members allocated)
    (areColumns : schema.columns = before ++ column :: after)
    (isMember : target.findMember? column.name = some (position, member))
    (assignable : member.setter = some setter)
    (record : RowRecord) :
    binder.bind record = (do
      let object ← compiler.assignCells target record 0 allocated before
      let assigned ← compiler.assignCell record before.length column member setter object
      compiler.assignCells target record (before.length + 1) assigned after) := by
  rw [bind_eq_assignCells isAssigned compiles, areColumns, assignCells_append]
  refine congrArg _ (funext fun object => ?_)
  rw [assignCells, isMember, Nat.zero_add, assignCell, bind_assoc]
  dsimp only
  rw [assignable]

/-! ## Documents -/

/-- A row has nothing for a JSON member: a null that is expected, or a blank text. -/
def HoldsNothing (record : RowRecord) (ordinal : Nat) (column : ColumnDescriptor) : Prop :=
  column.isNullable = true ∧ record.isNull ordinal = .ok true ∨
    ∃ text, record.Holds ordinal (.string text) ∧
      ∀ char ∈ text.toList, Text.isBlank char = true

/--
What becomes of an object when the cell of a text column is assigned to a JSON member whose
setter receives values in a type of documents.

For nothing it gets the default of the type if the zero of the member is null, and else the
cell is refused. For a text it gets the document, and the cell is refused only if the text is
no document or the document is not of the type.
-/
structure AssignsDocument
    (compiler : Compiler)
    (record : RowRecord)
    (ordinal : Nat)
    (column : ColumnDescriptor)
    (member : MemberDescriptor τ)
    (type : DocumentType α)
    (set : τ → α → τ)
    (object : τ) : Prop where
  ofNothing : HoldsNothing record ordinal column → member.HasNullZero →
    compiler.assignCell record ordinal column member (type.setter set) object =
      .ok (set object type.default)
  ofNothing_refused : HoldsNothing record ordinal column → ¬ member.HasNullZero →
    compiler.assignCell record ordinal column member (type.setter set) object =
      .error (.member column.name
        (ValueError.typeMismatch "Json" member.declaredType.name).message)
  ofText : ∀ text, record.Holds ordinal (.string text) →
    (¬ ∀ char ∈ text.toList, Text.isBlank char = true) →
      ∀ assigned,
        compiler.assignCell record ordinal column member (type.setter set) object =
            .ok assigned ↔
          ∃ document received, Json.read? text = some document ∧
            type.ofDocument? document = some received ∧ assigned = set object received

section Cell

variable
  {compiler : Compiler}
  {column : ColumnDescriptor}
  {member : MemberDescriptor τ}
  {record : RowRecord}
  {ordinal : Nat}
  {explain : String → String}

/-- A text is worth to a JSON member what the codec makes of it. -/
theorem cellValue_of_text
    {text : String}
    (isText : column.dataType = .string)
    (isJson : member.isJson = true)
    (holds : record.Holds ordinal (.string text)) :
    compiler.cellValue record ordinal column member = compiler.jsonCell column member text := by
  have readable : ConversionRules.readOperation? column.dataType = some .getString := by
    rw [isText]
    rfl
  have accepted : ReadOperation.getString.accepts (.string text) = true := rfl
  rw [cellValue_of_holds column member holds rfl, readCell, readable]
  simp only [accepted, isJson, Bool.not_true, Bool.false_eq_true, if_false, if_true]

/-- Nothing is worth to a JSON member the zero of the member. -/
theorem cellValue_of_holdsNothing
    (isText : column.dataType = .string)
    (isJson : member.isJson = true)
    (isStandard : compiler.codec = .standard explain)
    (holdsNothing : HoldsNothing record ordinal column) :
    compiler.cellValue record ordinal column member = .ok member.zeroValue := by
  rcases holdsNothing with ⟨isNullable, isNull⟩ | ⟨text, holds, areBlank⟩
  · rw [cellValue, isNullable, isNull]
    rfl
  · rw [cellValue_of_text isText isJson holds, jsonCell, isStandard,
      if_pos (JsonCodec.isBlank_standard_iff.mpr areBlank)]

theorem assignsDocument_of_isJson
    {type : DocumentType α}
    {set : τ → α → τ}
    (isText : column.dataType = .string)
    (isJson : member.isJson = true)
    (isStandard : compiler.codec = .standard explain)
    (record : RowRecord)
    (ordinal : Nat)
    (object : τ) :
    compiler.AssignsDocument record ordinal column member type set object := by
  constructor
  · intro holdsNothing hasNullZero
    rw [assignCell, cellValue_of_holdsNothing isText isJson isStandard holdsNothing,
      hasNullZero.zeroValue_eq]
    rfl
  · intro holdsNothing hasZero
    rw [assignCell, cellValue_of_holdsNothing isText isJson isStandard holdsNothing,
      Outcome.ok_bind, MemberDescriptor.setter_zeroValue hasZero]
    rfl
  · intro text holds notBlank assigned
    rw [← JsonCodec.isBlank_standard_iff] at notBlank
    rw [assignCell, cellValue_of_text isText isJson holds, jsonCell, isStandard, if_neg notBlank,
      Outcome.bind_eq_ok_iff]
    simp only [Outcome.mapError_eq_ok_iff, JsonCodec.decode_standard_eq_ok_iff]
    constructor
    · rintro ⟨_, ⟨document, isDocument, rfl⟩, isAssigned⟩
      obtain ⟨received, isReceived, isObject⟩ := DocumentType.setter_json_eq_ok_iff.mp isAssigned
      exact ⟨document, received, isDocument, isReceived, isObject⟩
    · rintro ⟨document, received, isDocument, isReceived, isObject⟩
      exact ⟨_, ⟨document, isDocument, rfl⟩,
        DocumentType.setter_json_eq_ok_iff.mpr ⟨received, isReceived, isObject⟩⟩

/--
A text column binds to every JSON member that is set with documents of a type.

Nothing becomes the default of the type exactly for members whose zero is null, and a text
becomes what the type reads from its document.
-/
theorem bind_eq_assignsDocument
    {compiler : Compiler}
    {explain : String → String}
    {column : ColumnDescriptor}
    {member : MemberDescriptor τ}
    {type : DocumentType α}
    {set : τ → α → τ}
    (isText : column.dataType = .string)
    (isJson : member.isJson = true)
    (isStandard : compiler.codec = .standard explain)
    (isSetter : member.setter = some (type.setter set)) :
    (∀ ordinal sink, ∃ plan, planColumn ordinal column member sink = .ok plan) ∧
      ∀ {typeName : String}
        {target : TargetDescriptor τ}
        {allocated : τ}
        {schema : RowSchema}
        {binder : Binder τ}
        {before after : List ColumnDescriptor}
        {position : Nat},
        compiler.build typeName target schema = .ok binder →
          target.factory = .members allocated →
            schema.columns = before ++ column :: after →
              target.findMember? column.name = some (position, member) →
                ∀ record,
                  binder.bind record = (do
                    let object ← compiler.assignCells target record 0 allocated before
                    let assigned ← compiler.assignCell record before.length column member
                      (type.setter set) object
                    compiler.assignCells target record (before.length + 1) assigned after) ∧
                    ∀ object, compiler.AssignsDocument record before.length column member
                      type set object := by
  have readable : ConversionRules.readOperation? column.dataType = some .getString := by
    rw [isText]
    rfl
  exact ⟨exists_planColumn_of_suits readable (.json isJson rfl),
    fun compiles isAssigned areColumns isMember record =>
      ⟨bind_eq_assignCell compiles isAssigned areColumns isMember isSetter record,
        assignsDocument_of_isJson isText isJson isStandard record _⟩⟩

end Cell

/-! ### Lists and counts -/

/-- A column of texts that may be null. -/
def documentColumn : ColumnDescriptor where
  name := "document"
  dataType := .string

/-- A member that is a list of numbers in a text, declared as a type of its own. -/
def numberList : MemberDescriptor Value :=
  { MemberDescriptor.assign "document" (.custom "Numbers") (.shaped .integers)
      fun _ received => received with
    isJson := true }

/-- A member that is a count in a text, declared as the number that it is. -/
def documentCount : MemberDescriptor Value :=
  { MemberDescriptor.assign "document" (.primitive (.integer .int32) nofun) (.shaped .integer)
      fun _ received => received with
    isJson := true }

/-- A target with one member. -/
def onlyMember (member : MemberDescriptor Value) : TargetDescriptor Value where
  identity := "Document"
  members := [member]
  factory := .members .null

/-- Null and a blank text are the empty list, and the text of a list is the list. -/
theorem bind_numberList :
    ∃ binder,
      ({} : Compiler).build "Document" (onlyMember numberList) ⟨[documentColumn]⟩ =
          .ok binder ∧
        binder.bind (cellRow .null) = .ok (.json (.array [])) ∧
          binder.bind (cellRow (.string " ")) = .ok (.json (.array [])) ∧
            binder.bind (cellRow (.string "[7]")) = .ok (.json (.array [.ofInt 7])) := by
  have isText : documentColumn.dataType = .string := rfl
  have isSetter : numberList.setter =
      some (JsonShape.integers.documentType.setter fun _ document => .json document) :=
    MemberDescriptor.setter_assign_shaped "document" (.custom "Numbers") .integers _
  have areColumns : (RowSchema.mk [documentColumn]).columns = [] ++ documentColumn :: [] := rfl
  have isMember : (onlyMember numberList).findMember? documentColumn.name =
      some (0, numberList) := rfl
  have hasNullZero : numberList.HasNullZero := .inr nofun
  obtain ⟨binder, compiles⟩ : ∃ binder,
      ({} : Compiler).build "Document" (onlyMember numberList) ⟨[documentColumn]⟩ = .ok binder :=
    ⟨_, rfl⟩
  have assigns := (bind_eq_assignsDocument isText rfl rfl isSetter).2 compiles rfl areColumns
    isMember
  have binds (record : RowRecord) : binder.bind record =
      ({} : Compiler).assignCell record 0 documentColumn numberList
        (JsonShape.integers.documentType.setter fun _ document => .json document) .null := by
    rw [(assigns record).1, assignCells, Outcome.ok_bind]
    exact bind_pure _
  have isNothing {record : RowRecord} (holdsNothing : HoldsNothing record 0 documentColumn) :
      binder.bind record = .ok (.json (.array [])) :=
    (binds record).trans (((assigns record).2 .null).ofNothing holdsNothing hasNullZero)
  have isBlank : ∀ char ∈ " ".toList, Text.isBlank char = true :=
    List.forall_mem_singleton.mpr rfl
  have notBlank : ¬ ∀ char ∈ "[7]".toList, Text.isBlank char = true :=
    fun areBlank => absurd (areBlank '[' (by decide)) (by decide)
  refine ⟨binder, compiles, isNothing (.inl ⟨rfl, rfl⟩),
    isNothing (.inr ⟨" ", holds_cellRow _, isBlank⟩), ?_⟩
  exact (binds _).trans ((((assigns _).2 .null).ofText "[7]" (holds_cellRow _) notBlank _).mpr
    ⟨_, _, rfl, rfl, rfl⟩)

/-- Null and a blank text are no count. -/
theorem bind_documentCount :
    ∃ binder,
      ({} : Compiler).build "Document" (onlyMember documentCount) ⟨[documentColumn]⟩ =
          .ok binder ∧
        binder.bind (cellRow .null) =
          .error (.member "document" "cannot convert Int32 value to Json") ∧
          binder.bind (cellRow (.string " ")) =
            .error (.member "document" "cannot convert Int32 value to Json") ∧
          binder.bind (cellRow (.string "7")) = .ok (.json (.ofInt 7)) :=
  ⟨_, rfl, rfl, rfl, rfl⟩

end Compiler
end RowBinding
