import RowBinding.Binding.Fingerprint
import RowBinding.Proofs.Text.Parts

/-!
# What a fingerprint tells apart

A key is read from the left. The name of the result type ends at the first
separator, and the columns can be told apart whatever their names are, because
the length of a name stands in front of it. The identity of the target has no
length in front of it, so a key can be read in two ways if one identity goes on
where another one ends just as a key goes on there.

Keys are exact for all other targets: they are equal exactly when the types, the
identities, the kinds and the shapes of the columns are.
-/

namespace RowBinding

/-- What a key records of a column: its name, its type and whether it is nullable. -/
def ColumnDescriptor.shape (column : ColumnDescriptor) : String × DataType × Bool :=
  (column.name, column.dataType, column.isNullable)

/-- What a key records of the columns of a schema. -/
def RowSchema.shape (schema : RowSchema) : List (String × DataType × Bool) :=
  schema.columns.map ColumnDescriptor.shape

theorem RowSchema.size_eq_of_shape
    {schema other : RowSchema}
    (same : schema.shape = other.shape) :
    schema.size = other.size := by
  have sameLength := congrArg List.length same
  rwa [shape, shape, List.length_map, List.length_map] at sameLength

/-! ## Names in keys -/

theorem DataType.ofName?_name (type : DataType) : ofName? type.name = some type := by
  cases type with
  | integer kind => cases kind <;> rfl
  | _ => rfl

theorem DataType.name_injective : Function.Injective DataType.name := by
  intro type other same
  have found := type.ofName?_name
  rw [same, other.ofName?_name] at found
  exact (Option.some.inj found).symm

theorem DataType.underscore_not_mem_name (type : DataType) : '_' ∉ type.name.toList := by
  cases type with
  | integer kind => cases kind <;> decide
  | _ => decide

theorem TargetKind.name_injective : Function.Injective TargetKind.name := by
  intro kind other same
  cases kind <;> cases other <;> first | rfl | exact absurd same (by decide)

theorem TargetKind.underscore_not_mem_name (kind : TargetKind) :
    '_' ∉ kind.name.toList := by
  cases kind <;> decide

theorem TargetKind.separator_not_mem_name (kind : TargetKind) :
    '|' ∉ kind.name.toList := by
  cases kind <;> decide

namespace Fingerprint

/-! ## Columns -/

/-- The word that says whether a column is nullable. -/
def nullability (column : ColumnDescriptor) : String :=
  if column.isNullable then "True" else "False"

theorem nullability_append_inj
    {column other : ColumnDescriptor}
    {rest otherRest : List Char}
    (same : (nullability column).toList ++ rest = (nullability other).toList ++ otherRest) :
    column.isNullable = other.isNullable ∧ rest = otherRest := by
  unfold nullability at same
  cases isNullable : column.isNullable <;> cases otherNullable : other.isNullable <;>
    simp_all

theorem toList_columnText (column : ColumnDescriptor) :
    (columnText column).toList =
      '|' :: (Text.decimalDigits column.name.utf8ByteSize ++ ':' ::
        (column.name.toList ++ '_' ::
          (column.dataType.name.toList ++ '_' :: (nullability column).toList))) := by
  simp [columnText, nullability]

/-- The text of a column ends where it says, whatever comes behind it. -/
theorem columnText_append_inj
    {column other : ColumnDescriptor}
    {rest otherRest : List Char}
    (same : (columnText column).toList ++ rest =
      (columnText other).toList ++ otherRest) :
    column.shape = other.shape ∧ rest = otherRest := by
  rw [toList_columnText, toList_columnText] at same
  simp only [List.cons_append, List.append_assoc, List.cons.injEq, true_and] at same
  obtain ⟨sameDigits, same⟩ := Text.append_separator_inj
    (Text.not_mem_decimalDigits rfl _) (Text.not_mem_decimalDigits rfl _) same
  have sameLength : String.utf8Len column.name.toList = String.utf8Len other.name.toList := by
    rw [String.utf8Len_toList, String.utf8Len_toList]
    exact Text.decimalDigits_injective sameDigits
  obtain ⟨sameName, same⟩ := Text.append_utf8Len_inj sameLength same
  obtain ⟨sameType, same⟩ := Text.append_separator_inj
    column.dataType.underscore_not_mem_name other.dataType.underscore_not_mem_name
    (List.cons.inj same).2
  obtain ⟨sameNullable, sameRest⟩ := nullability_append_inj same
  refine ⟨?_, sameRest⟩
  rw [ColumnDescriptor.shape, ColumnDescriptor.shape, String.toList_inj.mp sameName,
    DataType.name_injective (String.toList_inj.mp sameType), sameNullable]

/-- The characters that the columns of a schema contribute to a key. -/
def columnChars (columns : List ColumnDescriptor) : List Char :=
  columns.flatMap fun column => (columnText column).toList

theorem columnChars_inj
    {columns : List ColumnDescriptor} :
    ∀ {others : List ColumnDescriptor}, columnChars columns = columnChars others →
      columns.map ColumnDescriptor.shape = others.map ColumnDescriptor.shape := by
  induction columns with
  | nil =>
      intro others same
      cases others with
      | nil => rfl
      | cons other others => simp [columnChars, toList_columnText] at same
  | cons column columns inductionHypothesis =>
      intro others same
      cases others with
      | nil => simp [columnChars, toList_columnText] at same
      | cons other others =>
          obtain ⟨sameShape, sameRest⟩ := columnText_append_inj same
          rw [List.map_cons, List.map_cons, sameShape, inductionHypothesis sameRest]

/-- The text of a column says no more than its shape. -/
theorem map_columnText_eq_of_shape
    {columns : List ColumnDescriptor} :
    ∀ {others : List ColumnDescriptor},
      columns.map ColumnDescriptor.shape = others.map ColumnDescriptor.shape →
        columns.map columnText = others.map columnText := by
  induction columns with
  | nil =>
      intro others same
      cases others with
      | nil => rfl
      | cons other others => cases same
  | cons column columns inductionHypothesis =>
      intro others same
      cases others with
      | nil => cases same
      | cons other others =>
          obtain ⟨sameShape, sameRest⟩ := List.cons.inj same
          simp only [ColumnDescriptor.shape, Prod.mk.injEq] at sameShape
          obtain ⟨sameName, sameType, sameNullable⟩ := sameShape
          have sameText : columnText column = columnText other := by
            rw [columnText, columnText, sameName, sameType, sameNullable]
          rw [List.map_cons, List.map_cons, sameText, inductionHypothesis sameRest]

/-! ## The part before the columns -/

/-- What stands between an identity and the columns, behind the separator. -/
def headChars (kind : TargetKind) (size : Nat) : List Char :=
  kind.name.toList ++ '_' :: ("DataBindingExpBuild_".toList ++ Text.decimalDigits size)

theorem separator_not_mem_headChars (kind : TargetKind) (size : Nat) :
    '|' ∉ headChars kind size := by
  have noDigit : '|' ∉ Text.decimalDigits size := Text.not_mem_decimalDigits rfl size
  have noKind := kind.separator_not_mem_name
  simp [headChars, noDigit, noKind]

theorem toList_text_of
    {τ : Type}
    (typeName : String)
    (target : TargetDescriptor τ)
    (schema : RowSchema) :
    (of typeName target schema).text.toList =
      typeName.toList ++ '|' :: (target.identity.toList ++ '|' ::
        (headChars target.kind schema.size ++ columnChars schema.columns)) := by
  simp [of, targetText, headChars, columnChars, String.toList_join, List.flatMap_map]

theorem startsWithoutDigit_columnChars (columns : List ColumnDescriptor) :
    Text.StartsWithoutDigit (columnChars columns) := by
  intro char isFirst
  cases columns with
  | nil => cases isFirst
  | cons column columns =>
      rw [columnChars, List.flatMap_cons, toList_columnText] at isFirst
      cases isFirst
      rfl

theorem headChars_append_inj
    {kind otherKind : TargetKind}
    {schema other : RowSchema}
    (same : headChars kind schema.size ++ columnChars schema.columns =
      headChars otherKind other.size ++ columnChars other.columns) :
    kind = otherKind ∧ schema.shape = other.shape := by
  unfold headChars at same
  simp only [List.append_assoc, List.cons_append] at same
  obtain ⟨sameKind, same⟩ := Text.append_separator_inj kind.underscore_not_mem_name
    otherKind.underscore_not_mem_name same
  obtain ⟨_, sameColumns⟩ := Text.append_decimalDigits_inj
    (startsWithoutDigit_columnChars schema.columns)
    (startsWithoutDigit_columnChars other.columns) (List.append_cancel_left same)
  exact ⟨TargetKind.name_injective (String.toList_inj.mp sameKind),
    columnChars_inj sameColumns⟩

/-! ## Targets -/

variable {τ υ : Type} {typeName otherName : String}

/-- Targets of one type name and one identity have equal keys exactly for the same
kind and the same shape of columns. -/
theorem of_eq_of_iff_of_identity
    {target : TargetDescriptor τ}
    {other : TargetDescriptor υ}
    {schema otherSchema : RowSchema}
    (sameIdentity : target.identity = other.identity) :
    of typeName target schema = of typeName other otherSchema ↔
      target.kind = other.kind ∧ schema.shape = otherSchema.shape := by
  constructor
  · intro sameKey
    have same := congrArg (fun key => key.text.toList) sameKey
    simp only [toList_text_of, sameIdentity] at same
    have sameTail := List.append_cancel_left same
    simp only [List.cons.injEq, true_and] at sameTail
    have sameHead := List.append_cancel_left sameTail
    exact headChars_append_inj (List.cons.inj sameHead).2
  · rintro ⟨sameKind, sameShape⟩
    rw [of, of, sameIdentity, sameKind, RowSchema.size_eq_of_shape sameShape,
      map_columnText_eq_of_shape sameShape]

/-- The name of a result type ends at the first separator of a key. -/
theorem typeName_eq_of_of_eq_of
    {target : TargetDescriptor τ}
    {other : TargetDescriptor υ}
    {schema otherSchema : RowSchema}
    (plainName : '|' ∉ typeName.toList)
    (plainOther : '|' ∉ otherName.toList)
    (sameKey : of typeName target schema = of otherName other otherSchema) :
    typeName = otherName := by
  have same := congrArg (fun key => key.text.toList) sameKey
  simp only [toList_text_of] at same
  exact String.toList_inj.mp (Text.append_separator_inj plainName plainOther same).1

/-- An identity goes on where the identity of a target ends, just as the key of the
target over a schema goes on there. -/
def Continues
    (identity : String)
    (target : TargetDescriptor τ)
    (schema : RowSchema) : Prop :=
  ∃ rest, identity = target.identity ++ "|" ++ target.kind.name ++
    "_DataBindingExpBuild_" ++ Text.ofNat schema.size ++ rest

theorem continues_iff
    {identity : String}
    {target : TargetDescriptor τ}
    {schema : RowSchema} :
    Continues identity target schema ↔
      ∃ rest, identity.toList =
        target.identity.toList ++ '|' :: (headChars target.kind schema.size ++ rest) := by
  constructor
  · rintro ⟨rest, rfl⟩
    exact ⟨rest.toList, by simp [headChars]⟩
  · rintro ⟨rest, same⟩
    refine ⟨String.ofList rest, String.toList_inj.mp ?_⟩
    simp [same, headChars]

/-- A text that goes on as a key does and then with another separator goes on with
everything that stands before the columns. -/
theorem exists_eq_headChars_append
    {kind : TargetKind}
    {size : Nat}
    {columns between behind : List Char}
    (same : headChars kind size ++ columns = between ++ '|' :: behind) :
    ∃ rest, between = headChars kind size ++ rest := by
  rcases List.append_eq_append_iff.mp same with ⟨rest, isBetween, _⟩ | ⟨rest, isHead, isRest⟩
  · exact ⟨rest, isBetween⟩
  · cases rest with
    | nil => exact ⟨[], by rw [isHead, List.append_nil, List.append_nil]⟩
    | cons char chars =>
        have isSeparator : '|' = char := (List.cons.inj isRest).1
        have member : '|' ∈ headChars kind size := by
          rw [isHead, isSeparator]
          simp
        exact absurd member (separator_not_mem_headChars kind size)

/-- What follows one of two different identities in one key is part of the other. -/
theorem continues_of_append_eq
    {target : TargetDescriptor τ}
    {schema : RowSchema}
    {identity : String}
    {behind longer : List Char}
    (isLonger : identity.toList = target.identity.toList ++ longer)
    (notSame : longer ≠ [])
    (same : '|' :: (headChars target.kind schema.size ++ columnChars schema.columns) =
      longer ++ '|' :: behind) :
    Continues identity target schema := by
  cases longer with
  | nil => exact absurd rfl notSame
  | cons char between =>
      obtain ⟨isSeparator, same⟩ := List.cons.inj same
      obtain ⟨rest, isBetween⟩ := exists_eq_headChars_append same
      exact continues_iff.mpr ⟨rest, by rw [isLonger, ← isSeparator, isBetween]⟩

/-- Keys are equal exactly for the same type name, identity, kind and shape of
columns, unless one of the identities continues the other. -/
theorem of_eq_of_iff
    {target : TargetDescriptor τ}
    {other : TargetDescriptor υ}
    {schema otherSchema : RowSchema}
    (plainName : '|' ∉ typeName.toList)
    (plainOther : '|' ∉ otherName.toList)
    (apart : ¬ Continues other.identity target schema)
    (otherApart : ¬ Continues target.identity other otherSchema) :
    of typeName target schema = of otherName other otherSchema ↔
      typeName = otherName ∧ target.identity = other.identity ∧
        target.kind = other.kind ∧ schema.shape = otherSchema.shape := by
  constructor
  · intro sameKey
    have sameName := typeName_eq_of_of_eq_of plainName plainOther sameKey
    have sameIdentity : target.identity = other.identity := by
      have same := congrArg (fun key => key.text.toList) sameKey
      simp only [toList_text_of] at same
      obtain ⟨_, sameTail⟩ := Text.append_separator_inj plainName plainOther same
      rcases List.append_eq_append_iff.mp sameTail with
        ⟨longer, isLonger, sameRest⟩ | ⟨longer, isLonger, sameRest⟩
      · by_cases isSame : longer = []
        · rw [isSame, List.append_nil] at isLonger
          exact (String.toList_inj.mp isLonger).symm
        · exact absurd (continues_of_append_eq isLonger isSame sameRest) apart
      · by_cases isSame : longer = []
        · rw [isSame, List.append_nil] at isLonger
          exact String.toList_inj.mp isLonger
        · exact absurd (continues_of_append_eq isLonger isSame sameRest) otherApart
    subst sameName
    exact ⟨rfl, sameIdentity, (of_eq_of_iff_of_identity sameIdentity).mp sameKey⟩
  · rintro ⟨rfl, sameIdentity, sameRest⟩
    exact (of_eq_of_iff_of_identity sameIdentity).mpr sameRest

/-- A target whose identity is short. -/
def shortTarget : TargetDescriptor Unit where
  identity := "Order"
  members := []
  factory := .members ()

/-- A target whose identity goes on as a key of the short one does. -/
def longTarget : TargetDescriptor Unit where
  identity := "Order|members_DataBindingExpBuild_1|35:"
  members := []
  factory := .members ()

/-- A column with a name that goes on as a key of the long target does. -/
def longNameSchema : RowSchema where
  columns := [⟨"|members_DataBindingExpBuild_1|2:id", .integer .int64, some false⟩]

/-- A column with a short name. -/
def shortNameSchema : RowSchema where
  columns := [⟨"id", .integer .int64, some false⟩]

/-- Two targets with different identities have one key over different schemas. -/
theorem exists_collision :
    '|' ∉ "Row".toList ∧ shortTarget.identity ≠ longTarget.identity ∧
      longNameSchema.shape ≠ shortNameSchema.shape ∧
        of "Row" shortTarget longNameSchema = of "Row" longTarget shortNameSchema := by
  refine ⟨by decide, by decide, by decide, ?_⟩
  rfl

/-- A target whose identity goes on behind a separator, but not as a key does. -/
def invoiceTarget : TargetDescriptor Unit :=
  { shortTarget with identity := "Order|invoice" }

theorem of_ne_of_invoiceTarget :
    ¬ Continues invoiceTarget.identity shortTarget shortNameSchema ∧
      ¬ Continues shortTarget.identity invoiceTarget shortNameSchema ∧
        of "Row" shortTarget shortNameSchema ≠ of "Row" invoiceTarget shortNameSchema := by
  have apart : ¬ Continues invoiceTarget.identity shortTarget shortNameSchema := by
    rw [continues_iff]
    rintro ⟨rest, same⟩
    have sameTail := @List.append_cancel_left _ "Order".toList _ _ same
    cases (List.cons.inj sameTail).2
  have otherApart : ¬ Continues shortTarget.identity invoiceTarget shortNameSchema := by
    rw [continues_iff]
    rintro ⟨rest, same⟩
    cases same
  refine ⟨apart, otherApart, fun sameKey => ?_⟩
  have same := (of_eq_of_iff (by decide) (by decide) apart otherApart).mp sameKey
  exact absurd same.2.1 (by decide)

end Fingerprint
end RowBinding
