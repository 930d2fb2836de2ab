import RowBinding.Proofs.Binding.FloatColumns
import RowBinding.Proofs.Binding.NumbersAsTruth
import RowBinding.Proofs.Number.SinglesByDoubles

/-!
# Float columns and members of the same type

A float comes to a member of its own type through its shortest text, too. For a
double nothing is lost on the way. The text of a single is read as a double,
which is rounded to a single only then. All singles but one of each sign come out
as they were.
-/

namespace RowBinding

variable {τ : Type}

namespace Value

/-- The text of a single converts by way of the double that it reads as. -/
theorem convert_toText_single
    (layouts : List String)
    {float : Float32Value}
    {double : Float64Value}
    (reads : Floating.read? float.toText.toList = some double) :
    (string float.toText).convert layouts .float32 =
      .ok (.float32 (double.toFormat binary32)) := by
  rw [← Floating.trimChars_toText FloatFormat.separatesDigits_binary32 float] at reads
  rw [convert_string_eq_convertTo _ _ .float32 nofun nofun, convertTo, toFloat64, reads]
  rfl

/-- The text of a single converts to the single, unless it drifts. -/
theorem convert_toText_single_eq_ok_iff
    (layouts : List String)
    (float : Float32Value) :
    (string float.toText).convert layouts .float32 = .ok (.float32 float) ↔ ¬float.Drifts := by
  obtain ⟨double, reads, isSame⟩ := float.exists_toFormat_read?_toText_iff
  rw [convert_toText_single layouts reads, Except.ok.injEq, float32.injEq, isSame]

/-- The text of a double converts to the double. -/
theorem convert_toText_double
    (layouts : List String)
    (float : Float64Value) :
    (string float.toText).convert layouts .float64 = .ok (.float64 float) := by
  have reads := Floating.read?_toText FloatFormat.endsBeforePlaces_binary64
    FloatFormat.separatesDigits_binary64 float
  rw [← Floating.trimChars_toText FloatFormat.separatesDigits_binary64 float] at reads
  rw [convert_string_eq_convertTo _ _ .float64 nofun nofun, convertTo, toFloat64, reads]
  rfl

end Value

namespace FloatWidth

/-- The floats of a width that their texts do not lead back to. -/
def Drifts : (width : FloatWidth) → Floating width.format → Prop
  | .single, float => Floating.Drifts float
  | .double, _ => False

theorem dataType_ne_object (width : FloatWidth) : width.dataType ≠ .object := by
  cases width <;> nofun

theorem allows_string_dataType (width : FloatWidth) :
    ConversionRules.allows .string width.dataType = true := by
  cases width <;> rfl

theorem convert_toText_eq_ok_iff
    {width : FloatWidth}
    (layouts : List String)
    (float : Floating width.format) :
    (Value.string float.toText).convert layouts width.dataType = .ok (width.cell float) ↔
      ¬width.Drifts float := by
  cases width with
  | single => exact Value.convert_toText_single_eq_ok_iff layouts float
  | double => exact iff_of_true (Value.convert_toText_double layouts float) not_false

end FloatWidth

namespace Compiler

section Cell

variable
  {compiler : Compiler}
  {column : ColumnDescriptor}
  {member : MemberDescriptor τ}
  {width : FloatWidth}

theorem HasPlan.extract_float_eq_ok_iff
    {binder : Binder τ}
    {earlier : List ColumnPlan}
    {plan : ColumnPlan}
    {record : RowRecord}
    {ordinal : Nat}
    {float : Floating width.format}
    (hasPlan : compiler.HasPlan binder earlier plan ordinal column member)
    (isFloat : column.dataType = width.dataType)
    (sameType : member.declaredType.dataType? = some width.dataType)
    (notJson : member.isJson = false)
    (holds : record.Holds ordinal (width.cell float)) :
    binder.extract record plan = .ok (width.cell float) ↔ ¬width.Drifts float := by
  rw [hasPlan.extract_eq,
    cellValue_of_float isFloat sameType width.dataType_ne_object notJson holds,
    Outcome.mapError_eq_ok_iff]
  exact FloatWidth.convert_toText_eq_ok_iff compiler.config.layouts float

/-- A float column binds to every member of the same type that is not JSON. Exactly the
floats that do not drift are delivered as they are. -/
theorem extract_eq_ok_iff_of_float
    (isFloat : column.dataType = width.dataType)
    (sameType : member.declaredType.dataType? = some width.dataType)
    (notJson : member.isJson = false) :
    (∀ ordinal sink, ∃ plan, planColumn ordinal column member sink = .ok plan) ∧
      ∀ {typeName : String}
        {target : TargetDescriptor τ}
        {schema : RowSchema}
        {binder : Binder τ}
        {ordinal : Nat},
        compiler.build typeName target schema = .ok binder →
          Binds target schema ordinal column member →
            ∃ earlier plan, compiler.HasPlan binder earlier plan ordinal column member ∧
              ∀ (record : RowRecord) (float : Floating width.format),
                record.Holds ordinal (width.cell float) →
                  (binder.extract record plan = .ok (width.cell float) ↔
                    ¬width.Drifts float) := by
  refine ⟨exists_planColumn_of_takesTexts isFloat sameType width.dataType_ne_object notJson
    width.allows_string_dataType, fun compiles binds => ?_⟩
  obtain ⟨earlier, plan, hasPlan⟩ := exists_hasPlan compiles binds
  exact ⟨earlier, plan, hasPlan, fun record float holds =>
    hasPlan.extract_float_eq_ok_iff isFloat sameType notJson holds⟩

end Cell

/-! ### Singles in members that are singles -/

/-- A member that is a single. -/
def weightMember : MemberDescriptor Value where
  name := ""
  declaredType := .primitive .float32 nofun

/-- A target that is a single. -/
def weight : TargetDescriptor Value :=
  .scalar "Weight" weightMember.declaredType weightMember.isNullable .ok

/-- A column of singles. -/
def singleColumn : ColumnDescriptor where
  name := "weight"
  dataType := .float32

theorem binds_weight : Binds weight ⟨[singleColumn]⟩ 0 singleColumn weightMember :=
  ⟨rfl, rfl, rfl⟩

theorem exists_build_weight :
    ∃ binder, ({} : Compiler).build "Weight" weight ⟨[singleColumn]⟩ = .ok binder ∧
      binder.construction = .scalar .ok :=
  ⟨_, rfl, rfl⟩

/-- The single nearest to one tenth. -/
def oneTenth : Float32Value :=
  .signed false 1036831949 (by decide)

theorem extract_oneTenth :
    ∃ binder plan,
      ({} : Compiler).build "Weight" weight ⟨[singleColumn]⟩ = .ok binder ∧
        plan ∈ binder.plans ∧
          binder.extract (cellRow (.float32 oneTenth)) plan = .ok (.float32 oneTenth) := by
  have isFloat : singleColumn.dataType = FloatWidth.single.dataType := rfl
  have sameType : weightMember.declaredType.dataType? = some FloatWidth.single.dataType := rfl
  have noDrift : ¬FloatWidth.single.Drifts oneTenth :=
    show (1036831949 : Nat) ≠ FloatFormat.driftingRank by decide
  obtain ⟨binder, compiles, _⟩ := exists_build_weight
  obtain ⟨earlier, plan, hasPlan, delivers⟩ :=
    (extract_eq_ok_iff_of_float isFloat sameType rfl).2 compiles binds_weight
  obtain ⟨later, isPlans⟩ := hasPlan.exists_later
  exact ⟨binder, plan, compiles, by simp [isPlans],
    (delivers _ oneTenth (holds_cellRow _)).mpr noDrift⟩

/-- The positive single that drifts. -/
def driftingSingle : Float32Value :=
  .signed false FloatFormat.driftingRank (by decide)

/-- A single can come to a member that is a single as the next one. -/
theorem bind_driftingSingle :
    driftingSingle.toRat? = some (11420669 / 2 ^ 107) ∧
      ∃ binder other,
        ({} : Compiler).build "Weight" weight ⟨[singleColumn]⟩ = .ok binder ∧
          other.toRat? = some (11420670 / 2 ^ 107) ∧
            binder.bind (cellRow (.float32 driftingSingle)) = .ok (.float32 other) := by
  obtain ⟨double, reads, isNext⟩ :=
    Option.map_eq_some_iff.mp (Floating.toFormat_read?_toText_drifting false)
  have converts : (Value.string driftingSingle.toText).convert DateTime.defaultLayouts .float32 =
      .ok (.float32 (double.toFormat binary32)) :=
    Value.convert_toText_single _ reads
  have isFloat : singleColumn.dataType = FloatWidth.single.dataType := rfl
  have sameType : weightMember.declaredType.dataType? = some FloatWidth.single.dataType := rfl
  have isValue : ({} : Compiler).cellValue (cellRow (.float32 driftingSingle)) 0 singleColumn
      weightMember = .ok (.float32 (double.toFormat binary32)) :=
    (cellValue_of_float isFloat sameType nofun rfl
      (holds_cellRow (.float32 driftingSingle))).trans (congrArg (Except.mapError _) converts)
  obtain ⟨binder, compiles, made⟩ := exists_build_weight
  obtain ⟨_, _, hasPlan⟩ := exists_hasPlan compiles binds_weight
  have isOther : (double.toFormat binary32).toRat? = some (11420670 / 2 ^ 107) := by
    rw [isNext]
    decide +kernel
  refine ⟨by decide +kernel, binder, _, compiles, isOther, ?_⟩
  rw [hasPlan.bind_eq_of_scalar made, isValue]
  rfl

end Compiler
end RowBinding
