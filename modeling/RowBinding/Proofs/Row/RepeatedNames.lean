import Mathlib.Data.List.Nodup
import Mathlib.Data.List.Perm.Basic
import RowBinding.Proofs.Binding.ObjectSlots

/-!
# Repeated names

Names that are given values one after another end up once each, in the order in
which they came up first, and with the values that they were given last. These
three facts determine the names with their values, so a record and a row map
that are given the same values hold the same ones.

The map of a row is made in this way of its columns and cells. It therefore has
one entry for all columns of a name, which stands where the first of them does
and holds the cell of the last.
-/

namespace RowBinding

/-! ## Named values in order -/

namespace Fields

variable {α : Type}

/-- The values that a name is given, in order. -/
def valuesOf (assignments : List (String × α)) (name : String) : List α :=
  (assignments.filter fun assignment => assignment.1 = name).map Prod.snd

/-- Every assigned name stands once, in the order in which the names come up first, and with
the value that is assigned last. -/
structure KeepsLast (assignments fields : List (String × α)) : Prop where
  distinct : (names fields).Nodup
  mem_names_iff : ∀ name, name ∈ names fields ↔ name ∈ names assignments
  inOrder : (names fields).Pairwise fun earlier later =>
    (names assignments).idxOf earlier < (names assignments).idxOf later
  get?_eq : ∀ name, get? fields name = (valuesOf assignments name).getLast?

theorem names_append (fields others : List (String × α)) :
    names (fields ++ others) = names fields ++ names others :=
  List.map_append

theorem valuesOf_concat
    (assignments : List (String × α))
    (name other : String)
    (value : α) :
    valuesOf (assignments ++ [(name, value)]) other =
      if name = other then valuesOf assignments other ++ [value]
      else valuesOf assignments other := by
  rw [valuesOf, valuesOf, List.filter_append, List.map_append, List.filter_singleton]
  by_cases same : name = other
  · simp only [same, decide_true, if_true]
    rfl
  · simp only [same, decide_false, if_false]
    exact List.append_nil _

theorem keepsLast_nil : KeepsLast ([] : List (String × α)) [] :=
  ⟨.nil, fun _ => .rfl, .nil, fun _ => rfl⟩

/-- A name that comes up for the first time comes up behind all others. -/
theorem idxOf_lt_idxOf_concat
    {assigned : List String}
    {earlier name : String}
    (known : earlier ∈ assigned)
    (isNew : name ∉ assigned) :
    (assigned ++ [name]).idxOf earlier < (assigned ++ [name]).idxOf name := by
  rw [List.idxOf_append_of_mem known, List.idxOf_append_of_notMem isNew]
  exact Nat.lt_add_right _ (List.idxOf_lt_length_of_mem known)

section Steps

variable
  {assignments fields : List (String × α)}
  {name : String}

/-- Later assignments do not change where a name comes up first. -/
theorem KeepsLast.inOrder_append
    (keeps : KeepsLast assignments fields)
    (later : List String) :
    (names fields).Pairwise fun first second =>
      (names assignments ++ later).idxOf first < (names assignments ++ later).idxOf second := by
  refine keeps.inOrder.imp_of_mem fun isFirst isSecond isLess => ?_
  rwa [List.idxOf_append_of_mem ((keeps.mem_names_iff _).mp isFirst),
    List.idxOf_append_of_mem ((keeps.mem_names_iff _).mp isSecond)]

theorem KeepsLast.set
    (keeps : KeepsLast assignments fields)
    (name : String)
    (value : α) :
    KeepsLast (assignments ++ [(name, value)]) (set fields name value) := by
  have assigned : names (assignments ++ [(name, value)]) = names assignments ++ [name] :=
    names_append _ _
  have given (other : String) : get? (Fields.set fields name value) other =
      (valuesOf (assignments ++ [(name, value)]) other).getLast? := by
    rw [get?_set, valuesOf_concat, keeps.get?_eq]
    split
    · exact List.getLast?_concat.symm
    · rfl
  have isNamed := names_set fields name value
  by_cases known : name ∈ names fields
  · rw [if_pos known] at isNamed
    refine ⟨isNamed ▸ keeps.distinct, fun other => ?_, ?_, given⟩
    · rw [isNamed, assigned, List.mem_append, List.mem_singleton, keeps.mem_names_iff]
      refine ⟨.inl, fun inside => inside.elim id ?_⟩
      rintro rfl
      exact (keeps.mem_names_iff _).mp known
    · rw [isNamed, assigned]
      exact keeps.inOrder_append [name]
  · rw [if_neg known] at isNamed
    have isNew : name ∉ names assignments := fun inside =>
      known ((keeps.mem_names_iff name).mpr inside)
    refine ⟨?_, fun other => ?_, ?_, given⟩
    · rw [isNamed, ← List.concat_eq_append, List.nodup_concat]
      exact ⟨known, keeps.distinct⟩
    · rw [isNamed, assigned, List.mem_append, List.mem_append, keeps.mem_names_iff]
    · rw [isNamed, assigned, List.pairwise_append]
      refine ⟨keeps.inOrder_append [name], List.pairwise_singleton _ _, ?_⟩
      intro earlier isEarlier later isLast
      obtain rfl := List.mem_singleton.mp isLast
      exact idxOf_lt_idxOf_concat ((keeps.mem_names_iff earlier).mp isEarlier) isNew

theorem KeepsLast.setAll {later : List (String × α)} :
    ∀ {assignments fields : List (String × α)}, KeepsLast assignments fields →
      KeepsLast (assignments ++ later) (Fields.setAll fields later) := by
  induction later with
  | nil =>
      intro assignments fields keeps
      rwa [List.append_nil]
  | cons assignment rest inductionHypothesis =>
      intro assignments fields keeps
      rw [List.append_cons]
      exact inductionHypothesis (keeps.set assignment.1 assignment.2)

/-- Assigning names one after another keeps each of them once, with its last value. -/
theorem keepsLast_setAll (assignments : List (String × α)) :
    KeepsLast assignments (Fields.setAll [] assignments) :=
  keepsLast_nil.setAll

end Steps

/-! ## One list of fields for each list of assignments -/

section Uniqueness

variable {assignments fields others : List (String × α)}

theorem get?_eq_none_of_not_mem {name : String} (absent : name ∉ names fields) :
    get? fields name = none := by
  induction fields with
  | nil => rfl
  | cons field rest inductionHypothesis =>
      rw [names, List.map_cons, List.mem_cons, not_or] at absent
      rw [get?_cons, if_neg (Ne.symm absent.1)]
      exact inductionHypothesis absent.2

/-- Distinct names in some order, with the value of each, are one list of fields. -/
theorem eq_of_names_eq_of_get?_eq
    (sameNames : names fields = names others) :
    (names fields).Nodup → (∀ name, get? fields name = get? others name) → fields = others := by
  induction fields generalizing others with
  | nil =>
      intro _ _
      exact (List.map_eq_nil_iff.mp sameNames.symm).symm
  | cons field rest inductionHypothesis =>
      intro distinct sameValues
      obtain ⟨name, value⟩ := field
      cases others with
      | nil => cases sameNames
      | cons other otherRest =>
          obtain ⟨otherName, otherValue⟩ := other
          obtain ⟨rfl, sameRest⟩ := List.cons.inj sameNames
          obtain ⟨isNew, distinctRest⟩ := List.nodup_cons.mp distinct
          have isOtherNew : name ∉ names otherRest := fun inside => isNew (sameRest ▸ inside)
          have sameValue := sameValues name
          rw [get?_cons, get?_cons, if_pos rfl, if_pos rfl] at sameValue
          obtain rfl := Option.some.inj sameValue
          refine congrArg _ (inductionHypothesis sameRest distinctRest fun sought => ?_)
          by_cases isFirst : name = sought
          · subst isFirst
            rw [get?_eq_none_of_not_mem isNew, get?_eq_none_of_not_mem isOtherNew]
          · have sameSought := sameValues sought
            rwa [get?_cons, get?_cons, if_neg isFirst, if_neg isFirst] at sameSought

/-- There is one list of fields that keeps the last of some assignments. -/
theorem KeepsLast.unique
    (keeps : KeepsLast assignments fields)
    (keepsToo : KeepsLast assignments others) :
    fields = others := by
  have sameNames : names fields = names others := by
    refine List.Perm.eq_of_pairwise (fun _ _ _ _ isLess isMore => ?_) keeps.inOrder
      keepsToo.inOrder ?_
    · exact absurd isMore (Nat.lt_asymm isLess)
    · exact (List.perm_ext_iff_of_nodup keeps.distinct keepsToo.distinct).mpr fun name =>
        (keeps.mem_names_iff name).trans (keepsToo.mem_names_iff name).symm
  exact eq_of_names_eq_of_get?_eq sameNames keeps.distinct fun name =>
    (keeps.get?_eq name).trans (keepsToo.get?_eq name).symm

end Uniqueness
end Fields

/-! ## Records and maps -/

/-- Give several fields their values one after another. -/
def Record.setAll (record : Record) (assignments : List (String × Value)) : Record :=
  assignments.foldl (fun record assignment => record.set assignment.1 assignment.2) record

/-- Give several names their values one after another. -/
def RowMap.insertAll (row : RowMap) (assignments : List (String × Value)) : RowMap :=
  assignments.foldl (fun row assignment => row.insert assignment.1 assignment.2) row

theorem Record.fields_setAll (assignments : List (String × Value)) :
    ∀ record : Record,
      (record.setAll assignments).fields = Fields.setAll record.fields assignments := by
  induction assignments with
  | nil => exact fun _ => rfl
  | cons assignment rest inductionHypothesis => exact fun _ => inductionHypothesis _

theorem RowMap.entries_insertAll (assignments : List (String × Value)) :
    ∀ row : RowMap,
      (row.insertAll assignments).entries = Fields.setAll row.entries assignments := by
  induction assignments with
  | nil => exact fun _ => rfl
  | cons assignment rest inductionHypothesis => exact fun _ => inductionHypothesis _

/-! ## Rows -/

namespace RowRecord

/-- The cells of some columns of a row, under the names of the columns, from an ordinal on. -/
def namedCells (record : RowRecord) (ordinal : Nat) :
    List ColumnDescriptor → Except BindError (List (String × Value))
  | [] => .ok []
  | column :: rest => do
      let cell ← record.mappedCell ordinal
      let cells ← record.namedCells (ordinal + 1) rest
      return (column.name, cell) :: cells

theorem names_namedCells {record : RowRecord} {columns : List ColumnDescriptor} :
    ∀ {ordinal : Nat} {cells : List (String × Value)},
      record.namedCells ordinal columns = .ok cells →
        Fields.names cells = columns.map ColumnDescriptor.name := by
  induction columns with
  | nil =>
      intro ordinal cells isRead
      cases isRead
      rfl
  | cons column rest inductionHypothesis =>
      intro ordinal cells isRead
      obtain ⟨cell, _, isRead⟩ := Outcome.bind_eq_ok_iff.mp isRead
      obtain ⟨later, isLater, isRead⟩ := Outcome.bind_eq_ok_iff.mp isRead
      cases isRead
      exact congrArg _ (inductionHypothesis isLater)

theorem insertCells_eq_map (record : RowRecord) (columns : List ColumnDescriptor) :
    ∀ ordinal row, record.insertCells ordinal row columns =
      (record.namedCells ordinal columns).map row.insertAll := by
  induction columns with
  | nil => exact fun _ _ => rfl
  | cons column rest inductionHypothesis =>
      intro ordinal row
      rw [insertCells, namedCells, Outcome.map_bind]
      refine congrArg _ (funext fun cell => ?_)
      rw [inductionHypothesis]
      cases record.namedCells (ordinal + 1) rest <;> rfl

/-- The map of a row is made of its named cells, one after another. -/
theorem toMap_eq_map (record : RowRecord) (schema : RowSchema) :
    record.toMap schema =
      (record.namedCells 0 schema.columns).map (RowMap.insertAll {}) :=
  (record.toMap_eq_insertCells schema).trans (record.insertCells_eq_map schema.columns 0 {})

end RowRecord

namespace RowMap

theorem keepsLast_insertAll (assignments : List (String × Value)) :
    Fields.KeepsLast assignments (insertAll {} assignments).entries := by
  rw [entries_insertAll]
  exact Fields.keepsLast_setAll assignments

/-- A map that keeps the last of some assignments is the one that is made of them. -/
theorem eq_insertAll_of_keepsLast
    {assignments : List (String × Value)}
    {row : RowMap}
    (keeps : Fields.KeepsLast assignments row.entries) :
    insertAll {} assignments = row :=
  congrArg RowMap.mk ((keepsLast_insertAll assignments).unique keeps)

/--
A record and a map that are given the same values hold the same ones: each name once, in the
order in which the names come up first, with the value that it is given last.

The map of a row is the one that keeps these of the cells of the row, under the names of their
columns. It can be made exactly if every cell can be read.
-/
theorem keepsLast_of_assignments (typeName : String) (assignments : List (String × Value)) :
    let record := (Record.empty typeName).setAll assignments
    let row := insertAll {} assignments
    Fields.KeepsLast assignments record.fields ∧ Fields.KeepsLast assignments row.entries ∧
      record.fields = row.entries ∧
      (∀ name, record.get? name = (Fields.valuesOf assignments name).getLast? ∧
        row.get? name = (Fields.valuesOf assignments name).getLast?) ∧
      ∀ (source : RowRecord) (schema : RowSchema),
        (∀ made, source.toMap schema = .ok made ↔
          ∃ cells, source.namedCells 0 schema.columns = .ok cells ∧
            Fields.names cells = schema.columns.map ColumnDescriptor.name ∧
            Fields.KeepsLast cells made.entries) ∧
        ∀ error, source.toMap schema = .error error ↔
          source.namedCells 0 schema.columns = .error error := by
  have keepsRecord :
      Fields.KeepsLast assignments ((Record.empty typeName).setAll assignments).fields := by
    rw [Record.fields_setAll]
    exact Fields.keepsLast_setAll assignments
  have keepsRow := keepsLast_insertAll assignments
  refine ⟨keepsRecord, keepsRow, keepsRecord.unique keepsRow,
    fun name => ⟨keepsRecord.get?_eq name, keepsRow.get?_eq name⟩, fun source schema => ?_⟩
  rw [source.toMap_eq_map schema]
  refine ⟨fun made => ?_, fun error => Outcome.map_eq_error_iff⟩
  rw [Outcome.map_eq_ok_iff]
  constructor
  · rintro ⟨cells, areCells, rfl⟩
    exact ⟨cells, areCells, RowRecord.names_namedCells areCells, keepsLast_insertAll cells⟩
  · rintro ⟨cells, areCells, _, keeps⟩
    exact ⟨cells, areCells, eq_insertAll_of_keepsLast keeps⟩

/-- A repeated name keeps its place and takes the later value. -/
example :
    let row := insertAll {} [("b", .char '1'), ("a", .char '2'), ("b", .char '3')]
    row.entries = [("b", .char '3'), ("a", .char '2')] := rfl

end RowMap
end RowBinding
