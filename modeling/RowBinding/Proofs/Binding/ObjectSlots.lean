import RowBinding.Proofs.Binding.ColumnOrder

/-!
# Slots of the object type

A member of the object type takes every cell as it is. A target with one such
slot for each column of a schema is therefore made of the values that the map of
a row has under the names of its slots: what is bound and what is mapped agree
cell by cell, and fail alike.
-/

namespace RowBinding

variable {τ : Type}

/-! ## Rows as maps -/

namespace RowRecord

/-- The cell of a row as a map keeps it. -/
def mappedCell (record : RowRecord) (ordinal : Nat) : Except BindError Value := do
  let isNull ← (record.isNull ordinal).mapError .source
  if isNull then pure .null else (record.value ordinal).mapError .source

/-- Insert the cells of some columns into a map, from an ordinal on. -/
def insertCells (record : RowRecord) (ordinal : Nat) (row : RowMap) :
    List ColumnDescriptor → Except BindError RowMap
  | [] => .ok row
  | column :: rest => do
      let cell ← record.mappedCell ordinal
      record.insertCells (ordinal + 1) (row.insert column.name cell) rest

theorem toMap_eq_insertCells (record : RowRecord) (schema : RowSchema) :
    record.toMap schema = record.insertCells 0 {} schema.columns := by
  rw [toMap]
  generalize (0 : Nat) = ordinal, ({} : RowMap) = row
  induction schema.columns generalizing ordinal row with
  | nil => rfl
  | cons column rest inductionHypothesis =>
      rw [List.zipIdx_cons, List.foldlM_cons, insertCells, mappedCell]
      dsimp only
      cases record.isNull ordinal with
      | error error => rfl
      | ok isNull =>
          cases isNull with
          | true => exact inductionHypothesis _ _
          | false =>
              cases record.value ordinal with
              | error error => rfl
              | ok cell => exact inductionHypothesis _ _

theorem mappedCell_of_holds
    {record : RowRecord}
    {ordinal : Nat}
    {cell : Value}
    (holds : record.Holds ordinal cell) :
    record.mappedCell ordinal = .ok cell := by
  rw [mappedCell, holds.isNull, holds.value]
  cases cell <;> rfl

/-- Inserting a row keeps the values of other names. -/
theorem get?_insertCells_of_not_mem
    {record : RowRecord}
    {name : String}
    {columns : List ColumnDescriptor} :
    ∀ {ordinal : Nat} {row final : RowMap},
      name ∉ columns.map ColumnDescriptor.name →
        record.insertCells ordinal row columns = .ok final →
          final.get? name = row.get? name := by
  induction columns with
  | nil =>
      intro ordinal row final _ inserts
      cases inserts
      rfl
  | cons column rest inductionHypothesis =>
      intro ordinal row final isOther inserts
      rw [List.map_cons, List.mem_cons, not_or] at isOther
      obtain ⟨cell, _, inserts⟩ := Outcome.bind_eq_ok_iff.mp inserts
      rw [inductionHypothesis isOther.2 inserts, RowMap.get?, RowMap.insert, Fields.get?_set,
        if_neg (Ne.symm isOther.1)]
      rfl

/-- A map that is made of a row has the cell of every column under the name of the column. -/
theorem get?_insertCells
    {record : RowRecord}
    {columns : List ColumnDescriptor} :
    ∀ {ordinal : Nat} {row final : RowMap},
      (columns.map ColumnDescriptor.name).Nodup →
        record.insertCells ordinal row columns = .ok final →
          ∀ {index : Nat} {column : ColumnDescriptor}, columns[index]? = some column →
            ∃ cell, record.mappedCell (ordinal + index) = .ok cell ∧
              final.get? column.name = some cell := by
  induction columns with
  | nil =>
      intro ordinal row final _ _ index column isColumn
      cases isColumn
  | cons first rest inductionHypothesis =>
      intro ordinal row final distinct inserts index column isColumn
      rw [List.map_cons, List.nodup_cons] at distinct
      obtain ⟨cell, isCell, inserts⟩ := Outcome.bind_eq_ok_iff.mp inserts
      cases index with
      | zero =>
          cases isColumn
          refine ⟨cell, isCell, ?_⟩
          rw [get?_insertCells_of_not_mem distinct.1 inserts, RowMap.get?, RowMap.insert,
            Fields.get?_set, if_pos rfl]
      | succ index =>
          rw [← Nat.add_assoc, Nat.add_right_comm]
          exact inductionHypothesis distinct.2 inserts isColumn

/-- A row that has every cell has a map. -/
theorem exists_insertCells
    {record : RowRecord}
    {columns : List ColumnDescriptor} :
    ∀ {ordinal : Nat} {row : RowMap},
      (∀ index < columns.length, ∃ cell, record.mappedCell (ordinal + index) = .ok cell) →
        ∃ final, record.insertCells ordinal row columns = .ok final := by
  induction columns with
  | nil => exact fun _ => ⟨_, rfl⟩
  | cons first rest inductionHypothesis =>
      intro ordinal row hasCells
      obtain ⟨cell, isCell⟩ := hasCells 0 (Nat.zero_lt_succ _)
      rw [insertCells, show record.mappedCell ordinal = .ok cell from isCell, Outcome.ok_bind]
      refine inductionHypothesis fun index inside => ?_
      rw [Nat.add_right_comm, Nat.add_assoc]
      exact hasCells (index + 1) (Nat.succ_lt_succ inside)

end RowRecord

/-! ## Targets of objects -/

namespace TargetDescriptor

/-- A target is made by a constructor from one object for each column of a schema, in any
order. -/
structure TakesObjects
    (target : TargetDescriptor τ)
    (construct : List Value → Except String τ)
    (schema : RowSchema) : Prop where
  factory_eq : target.factory = .positional construct
  names_perm :
    (target.members.map MemberDescriptor.name).Perm (schema.columns.map ColumnDescriptor.name)
  isObject : ∀ member ∈ target.members, member.declaredType = .object
  notJson : ∀ member ∈ target.members, member.isJson = false

/-- The values that a map has under the names of the slots. -/
def slotValues (target : TargetDescriptor τ) (row : RowMap) : List Value :=
  target.members.map fun member => (row.get? member.name).getD .null

/-- A name that a slot has leads to a slot with that name. -/
theorem exists_findMember?_of_mem
    {target : TargetDescriptor τ}
    {name : String}
    (named : name ∈ target.members.map MemberDescriptor.name) :
    ∃ position member, target.findMember? name = some (position, member) ∧
      target.members[position]? = some member ∧ member.name = name := by
  obtain ⟨sought, isMember, rfl⟩ := List.mem_map.mp named
  cases found : target.members.findIdx? fun member => member.name == sought.name with
  | none =>
      have differs := List.findIdx?_eq_none_iff.mp found sought isMember
      simp at differs
  | some position =>
      obtain ⟨inside, same, _⟩ := List.findIdx?_eq_some_iff_getElem.mp found
      have isPlaced : target.members[position]? = some target.members[position] :=
        List.getElem?_eq_getElem inside
      refine ⟨position, target.members[position], ?_, isPlaced, eq_of_beq same⟩
      rw [findMember?, position?, found]
      dsimp only
      rw [isPlaced]
      rfl

/-- Where no two slots have a name in common, inserting the value of a slot into the map sets
the slot. -/
theorem slotValues_insert
    {target : TargetDescriptor τ}
    {position : Nat}
    {member : MemberDescriptor τ}
    (distinct : (target.members.map MemberDescriptor.name).Nodup)
    (isMember : target.members[position]? = some member)
    (row : RowMap)
    (cell : Value) :
    target.slotValues (row.insert member.name cell) =
      (target.slotValues row).set position cell := by
  have inserted (name : String) : (row.insert member.name cell).get? name =
      if member.name = name then some cell else row.get? name :=
    Fields.get?_set row.entries member.name name cell
  refine List.ext_getElem? fun other => ?_
  rw [slotValues, slotValues, List.getElem?_map, List.getElem?_set]
  by_cases same : position = other
  · subst same
    obtain ⟨inside, _⟩ := List.getElem?_eq_some_iff.mp isMember
    rw [isMember, if_pos rfl, List.length_map, if_pos inside]
    simp only [Option.map_some, inserted, if_true, Option.getD_some]
  · rw [if_neg same, List.getElem?_map]
    cases isOther : target.members[other]? with
    | none => rfl
    | some slot =>
        have differs : member.name ≠ slot.name := by
          intro named
          have sameName : (target.members.map MemberDescriptor.name)[position]? =
              (target.members.map MemberDescriptor.name)[other]? := by
            rw [List.getElem?_map, List.getElem?_map, isMember, isOther]
            exact congrArg some named
          refine same ((List.getElem?_inj ?_ distinct).mp sameName)
          obtain ⟨inside, _⟩ := List.getElem?_eq_some_iff.mp isMember
          rwa [List.length_map]
        simp only [Option.map_some, inserted, if_neg differs]

end TargetDescriptor

/-! ## Binding and mapping -/

/-- A cell that is not null is what its column is read as. -/
def ColumnDescriptor.Reads (column : ColumnDescriptor) (cell : Value) : Prop :=
  ∃ read, ConversionRules.readOperation? column.dataType = some read ∧ read.accepts cell = true

namespace Compiler

variable
  {compiler : Compiler}
  {target : TargetDescriptor τ}
  {record : RowRecord}

/-- A slot of the object type takes the cell of a column as a map keeps it. -/
theorem cellValue_eq_mappedCell
    {ordinal : Nat}
    {column : ColumnDescriptor}
    {member : MemberDescriptor τ}
    (isNullable : column.isNullable = true)
    (isObject : member.declaredType = .object)
    (notJson : member.isJson = false)
    (reads : ∀ cell, record.isNull ordinal = .ok false → record.value ordinal = .ok cell →
      column.Reads cell) :
    compiler.cellValue record ordinal column member = record.mappedCell ordinal := by
  have isZero : member.zeroValue = .null := by
    rw [MemberDescriptor.zeroValue, isObject]
    split <;> rfl
  rw [cellValue, RowRecord.mappedCell, isNullable, isZero]
  cases nulls : record.isNull ordinal with
  | error error => rfl
  | ok isNull =>
      cases isNull with
      | true => rfl
      | false =>
          cases holds : record.value ordinal with
          | error error => rfl
          | ok cell =>
              obtain ⟨read, readable, accepted⟩ := reads cell nulls holds
              change compiler.readCell column member cell = .ok cell
              rw [readCell, readable]
              simp only [accepted, notJson, Bool.not_true, Bool.false_eq_true, if_false]
              rw [convertedCell, isObject]
              rfl

/-- Filling the slots with the cells of some columns fills them with what a map has after the
same cells are inserted, or fails alike. -/
theorem fillCells_eq_insertCells
    {construct : List Value → Except String τ}
    {schema : RowSchema}
    (takes : target.TakesObjects construct schema)
    (distinct : (schema.columns.map ColumnDescriptor.name).Nodup)
    {columns : List ColumnDescriptor} :
    ∀ {ordinal : Nat} {row : RowMap},
      (∀ column ∈ columns, column ∈ schema.columns ∧ column.isNullable = true) →
      (∀ index column cell, columns[index]? = some column →
        record.isNull (ordinal + index) = .ok false →
          record.value (ordinal + index) = .ok cell → column.Reads cell) →
        compiler.fillCells target record ordinal (target.slotValues row) columns =
          (record.insertCells ordinal row columns).map target.slotValues := by
  induction columns with
  | nil => exact fun _ _ => rfl
  | cons column rest inductionHypothesis =>
      intro ordinal row inSchema read
      obtain ⟨isColumn, isNullable⟩ := inSchema column List.mem_cons_self
      have named : column.name ∈ target.members.map MemberDescriptor.name :=
        takes.names_perm.mem_iff.mpr (List.mem_map_of_mem isColumn)
      obtain ⟨position, member, isFound, isMember, sameName⟩ :=
        TargetDescriptor.exists_findMember?_of_mem named
      have inside := List.mem_of_getElem? isMember
      rw [fillCells, isFound, RowRecord.insertCells]
      dsimp only
      have sameCell : compiler.cellValue record ordinal column member =
          record.mappedCell ordinal :=
        cellValue_eq_mappedCell isNullable (takes.isObject member inside)
          (takes.notJson member inside) fun cell => read 0 column cell rfl
      rw [sameCell, Outcome.map_bind]
      refine congrArg _ (funext fun cell => ?_)
      rw [← sameName, ← TargetDescriptor.slotValues_insert
        (takes.names_perm.nodup_iff.mpr distinct) isMember]
      refine inductionHypothesis (fun other isLater => inSchema other
        (List.mem_cons_of_mem _ isLater)) fun index other cell isOther => ?_
      rw [Nat.add_right_comm, Nat.add_assoc]
      exact read (index + 1) other cell isOther

/-- A column that can be read is bound to a slot of the object type. -/
theorem refusal?_eq_none_of_object
    {column : ColumnDescriptor}
    {member : MemberDescriptor τ}
    (readable : (ConversionRules.readOperation? column.dataType).isSome = true)
    (isObject : member.declaredType = .object)
    (notJson : member.isJson = false) :
    refusal? column member = none := by
  obtain ⟨read, isRead⟩ := Option.isSome_iff_exists.mp readable
  unfold refusal? planColumn
  rw [isRead]
  simp only [notJson, Bool.false_eq_true, if_false, isObject, bne_self_eq_false, Bool.and_false]
  rfl

theorem exists_build_of_takesObjects
    {construct : List Value → Except String τ}
    {schema : RowSchema}
    (compiler : Compiler)
    (typeName : String)
    (takes : target.TakesObjects construct schema)
    (readable : ∀ column ∈ schema.columns,
      (ConversionRules.readOperation? column.dataType).isSome = true) :
    ∃ binder, compiler.build typeName target schema = .ok binder := by
  have made := takes.factory_eq
  refine (exists_build_iff (fun make => made ▸ nofun) typeName schema).mpr fun column inside => ?_
  obtain ⟨position, member, isFound, isMember, _⟩ := TargetDescriptor.exists_findMember?_of_mem
    (takes.names_perm.mem_iff.mpr (List.mem_map_of_mem inside))
  have assignable (allocated : τ) (isMembers : target.factory = .members allocated) :
      member.setter.isSome = true := by
    rw [made] at isMembers
    cases isMembers
  rw [stop?_of_findMember? isFound assignable]
  have isSlot := List.mem_of_getElem? isMember
  exact refusal?_eq_none_of_object (readable column inside) (takes.isObject member isSlot)
    (takes.notJson member isSlot)

end Compiler

/-- A row has a cell for each column, which is null or of the type of the column if columns of
that type are read as their type. -/
def RowRecord.Fits (record : RowRecord) (schema : RowSchema) : Prop :=
  ∀ ordinal column, schema.columns[ordinal]? = some column →
    ∃ cell, record.Holds ordinal cell ∧
      (cell.isNull = true ∨
        ConversionRules.readOperation? column.dataType = some .getValue ∨
          cell.dataType? = some column.dataType)

/-- A cell of the type of its column is what the column is read as. -/
theorem ReadOperation.accepts_of_dataType?
    {type : DataType}
    {read : ReadOperation}
    {cell : Value}
    (readable : ConversionRules.readOperation? type = some read)
    (typed : read = .getValue ∨ cell.dataType? = some type) :
    read.accepts cell = true := by
  by_cases readsAll : read = .getValue
  · subst readsAll
    rfl
  · have isType := resultType_of_readOperation? readable readsAll
    simp [accepts, typed.resolve_left readsAll, isType]

namespace Compiler

variable
  {target : TargetDescriptor τ}
  {construct : List Value → Except String τ}
  {schema : RowSchema}

/--
The object of a row is made of the values that the map of the row has.

A target with a slot of the object type for each column compiles if every column can be read.
On a row that fits its columns, the constructor gets for each slot what the map of the row has
under the name of the slot, which is the cell of that column as the row holds it.
-/
theorem bind_eq_toMap
    (compiler : Compiler)
    (typeName : String)
    (takes : target.TakesObjects construct schema)
    (distinct : (schema.columns.map ColumnDescriptor.name).Nodup)
    (readable : ∀ column ∈ schema.columns,
      (ConversionRules.readOperation? column.dataType).isSome = true)
    (nullable : ∀ column ∈ schema.columns, column.isNullable = true) :
    ∃ binder, compiler.build typeName target schema = .ok binder ∧
      ∀ record : RowRecord, record.Fits schema →
        ∃ row arguments, record.toMap schema = .ok row ∧
          (∀ ordinal column cell, schema.columns[ordinal]? = some column →
            record.value ordinal = .ok cell → row.get? column.name = some cell) ∧
          arguments.map some = target.members.map (fun slot => row.get? slot.name) ∧
          binder.Passes record arguments ∧
          binder.bind record =
            (construct arguments).mapError (.construct target.identity) := by
  obtain ⟨binder, compiles⟩ := exists_build_of_takesObjects compiler typeName takes readable
  have fills := fillsSlots_of_build takes.factory_eq compiles
  refine ⟨binder, compiles, fun record fits => ?_⟩
  have hasCells (index : Nat) (inside : index < schema.columns.length) :
      ∃ cell, record.mappedCell (0 + index) = .ok cell := by
    obtain ⟨cell, holds, _⟩ := fits index _ (List.getElem?_eq_getElem inside)
    exact ⟨cell, (Nat.zero_add index).symm ▸ RowRecord.mappedCell_of_holds holds⟩
  obtain ⟨row, inserts⟩ : ∃ row, record.insertCells 0 {} schema.columns = .ok row :=
    RowRecord.exists_insertCells hasCells
  have isMapped (ordinal : Nat) (column : ColumnDescriptor) (cell : Value)
      (isColumn : schema.columns[ordinal]? = some column)
      (isCell : record.value ordinal = .ok cell) : row.get? column.name = some cell := by
    obtain ⟨stored, isStored, found⟩ := RowRecord.get?_insertCells distinct inserts isColumn
    obtain ⟨held, holds, _⟩ := fits ordinal column isColumn
    rw [Nat.zero_add, RowRecord.mappedCell_of_holds holds] at isStored
    rw [holds.value] at isCell
    cases isStored
    cases isCell
    exact found
  have isZero : zeroArguments target = target.slotValues {} := by
    refine List.map_congr_left fun slot inside => ?_
    rw [MemberDescriptor.zeroValue, takes.isObject slot inside]
    split <;> rfl
  have isFilled : compiler.fillCells target record 0 (zeroArguments target) schema.columns =
      .ok (target.slotValues row) := by
    rw [isZero, fillCells_eq_insertCells takes distinct
      (fun column inside => ⟨inside, nullable column inside⟩), inserts]
    · rfl
    · intro index column cell isColumn notNull isCell
      rw [Nat.zero_add] at notNull isCell
      obtain ⟨held, holds, typed⟩ := fits index column isColumn
      obtain ⟨read, isRead⟩ :=
        Option.isSome_iff_exists.mp (readable column (List.mem_of_getElem? isColumn))
      rw [holds.value] at isCell
      cases isCell
      rw [holds.isNull] at notNull
      rw [Except.ok.inj notNull, isRead] at typed
      exact ⟨read, isRead, ReadOperation.accepts_of_dataType? isRead
        ((typed.resolve_left nofun).imp_left Option.some.inj)⟩
  refine ⟨row, target.slotValues row, (RowRecord.toMap_eq_insertCells record schema).trans inserts,
    isMapped, ?_, fills.passes_iff.mpr isFilled, ?_⟩
  · rw [TargetDescriptor.slotValues, List.map_map]
    refine List.map_congr_left fun slot inside => ?_
    obtain ⟨column, isColumn, sameName⟩ := List.mem_map.mp
      (takes.names_perm.mem_iff.mp (List.mem_map_of_mem inside))
    obtain ⟨ordinal, isPlaced⟩ := List.getElem?_of_mem isColumn
    obtain ⟨cell, holds, _⟩ := fits ordinal column isPlaced
    have found := isMapped ordinal column cell isPlaced holds.value
    rw [sameName] at found
    simp only [Function.comp_apply, found, Option.getD_some]
  · rw [fills.bind_eq, isFilled]
    rfl

/-- A target of a note, a price and a count, which are handed on as they are. -/
def goodsTarget : TargetDescriptor (List Value) where
  identity := "Goods"
  members :=
    [{ name := "note", declaredType := .object }, { name := "price", declaredType := .object },
      { name := "count", declaredType := .object, isNullable := true }]
  factory := .positional .ok

/-- The columns of goods: a price, a count that is read as it is, and a note. -/
def goodsSchema : RowSchema where
  columns :=
    [⟨"price", .decimal, none⟩, ⟨"count", .integer .uint64, some true⟩, ⟨"note", .string, none⟩]

/-- Two and a half, written with two places. -/
def priceInFull : Value :=
  .decimal ⟨false, 250, 2, by decide, by decide⟩

/-- Seven goods with a price written in full, and without a note. -/
def goodsRow : RowRecord :=
  .ofCells [priceInFull, .integer ⟨.uint64, 7, by decide⟩, .null]

theorem bind_goodsRow :
    goodsTarget.TakesObjects .ok goodsSchema ∧ goodsRow.Fits goodsSchema ∧
      ∃ binder row,
        ({} : Compiler).build "Goods" goodsTarget goodsSchema = .ok binder ∧
          goodsRow.toMap goodsSchema = .ok row ∧
          (row.get? "note", row.get? "price", row.get? "count") =
            (some .null, some priceInFull, some (.integer ⟨.uint64, 7, by decide⟩)) ∧
          binder.bind goodsRow =
            .ok [.null, priceInFull, .integer ⟨.uint64, 7, by decide⟩] := by
  have takes : goodsTarget.TakesObjects .ok goodsSchema :=
    { factory_eq := rfl
      names_perm := by decide
      isObject := by simp [goodsTarget]
      notJson := by simp [goodsTarget] }
  have fits : goodsRow.Fits goodsSchema := by
    intro ordinal column isColumn
    match ordinal with
    | 0 =>
        cases isColumn
        exact ⟨_, ⟨rfl, rfl⟩, .inr (.inr rfl)⟩
    | 1 =>
        cases isColumn
        exact ⟨_, ⟨rfl, rfl⟩, .inr (.inl rfl)⟩
    | 2 =>
        cases isColumn
        exact ⟨_, ⟨rfl, rfl⟩, .inl rfl⟩
    | _ + 3 => cases isColumn
  obtain ⟨binder, compiles, binds⟩ := bind_eq_toMap {} "Goods" takes (by decide)
    (by decide) (by decide)
  obtain ⟨row, arguments, isRow, isMapped, areSlots, _, isObject⟩ := binds goodsRow fits
  have isPrice := isMapped 0 _ _ rfl rfl
  have isCount := isMapped 1 _ _ rfl rfl
  have isNote := isMapped 2 _ _ rfl rfl
  refine ⟨takes, fits, binder, row, compiles, isRow, by rw [isPrice, isCount, isNote], ?_⟩
  rw [isObject]
  simp only [goodsTarget, List.map_cons, List.map_nil, isPrice, isCount, isNote] at areSlots
  have areArguments : arguments =
      [.null, priceInFull, .integer ⟨.uint64, 7, by decide⟩] :=
    (List.map_inj_right fun _ _ => Option.some.inj).mp areSlots
  rw [areArguments]
  rfl

end Compiler
end RowBinding
