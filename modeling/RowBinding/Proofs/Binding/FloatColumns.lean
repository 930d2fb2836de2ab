import RowBinding.Proofs.Binding.DeliveredTypes
import RowBinding.Proofs.NumberTexts

/-!
# Float columns and integer members

A float comes to an integer member through its shortest text, which is read as
an integer. A float with an integer value therefore delivers the integer that
its shortest digits denote. That is the value itself unless an integer with
more zeros at its end reads back as the float, and so it is for every value
below two full binades. A float without an integer value delivers nothing, and
the row fails.
-/

namespace RowBinding

variable {τ : Type}

/-- The widths of the floats that columns hold. -/
inductive FloatWidth
  | single
  | double
  deriving DecidableEq

namespace FloatWidth

/-- The format of the floats of a width. -/
def format : FloatWidth → FloatFormat
  | .single => binary32
  | .double => binary64

/-- The type of the columns of floats of a width. -/
def dataType : FloatWidth → DataType
  | .single => .float32
  | .double => .float64

/-- The operation that reads floats of a width. -/
def read : FloatWidth → ReadOperation
  | .single => .getFloat
  | .double => .getDouble

/-- A float in a cell of a column of its width. -/
def cell : (width : FloatWidth) → Floating width.format → Value
  | .single => .float32
  | .double => .float64

variable (width : FloatWidth)

theorem separatesDigits : width.format.SeparatesDigits := by
  cases width with
  | single => exact FloatFormat.separatesDigits_binary32
  | double => exact FloatFormat.separatesDigits_binary64

theorem leastExponent_nonpos : width.format.leastExponent ≤ 0 := by
  cases width <;> decide

@[simp] theorem readOperation?_dataType :
    ConversionRules.readOperation? width.dataType = some width.read := by
  cases width <;> rfl

@[simp] theorem normalizesNumeric_read : width.read.normalizesNumeric = true := by
  cases width <;> rfl

variable {width} (float : Floating width.format)

@[simp] theorem accepts_cell : width.read.accepts (width.cell float) = true := by
  cases width <;> rfl

@[simp] theorem numericText?_cell : (width.cell float).numericText? = some float.toText := by
  cases width <;> rfl

@[simp] theorem isNull_cell : (width.cell float).isNull = false := by
  cases width <;> rfl

end FloatWidth

/-! ## Floats in cells -/

namespace Compiler

section Cell

variable
  {compiler : Compiler}
  {column : ColumnDescriptor}
  {member : MemberDescriptor τ}
  {kind : IntegerKind}
  {width : FloatWidth}

/-- A float column is never refused for a member that takes texts. -/
theorem exists_planColumn_of_takesTexts
    {type : DataType}
    (isFloat : column.dataType = width.dataType)
    (targeted : member.declaredType.dataType? = some type)
    (notObject : type ≠ .object)
    (notJson : member.isJson = false)
    (allowed : ConversionRules.allows .string type = true)
    (ordinal : Nat)
    (sink : Sink) :
    ∃ plan, planColumn ordinal column member sink = .ok plan := by
  have suits : Suits member width.read :=
    suits_of_allows targeted notObject notJson (by rwa [FloatWidth.normalizesNumeric_read])
  exact exists_planColumn_of_suits (isFloat ▸ width.readOperation?_dataType) suits ordinal sink

/-- A float is worth to a member what its text converts to. -/
theorem cellValue_of_float
    {type : DataType}
    {record : RowRecord}
    {ordinal : Nat}
    {float : Floating width.format}
    (isFloat : column.dataType = width.dataType)
    (targeted : member.declaredType.dataType? = some type)
    (notObject : type ≠ .object)
    (notJson : member.isJson = false)
    (holds : record.Holds ordinal (width.cell float)) :
    compiler.cellValue record ordinal column member =
      ((Value.string float.toText).convert compiler.config.layouts type).mapError
        (.conversion column.name) := by
  rw [cellValue_of_accepts (isFloat ▸ width.readOperation?_dataType)
    (FloatWidth.accepts_cell float) targeted notObject notJson holds (FloatWidth.isNull_cell float),
    FloatWidth.normalizesNumeric_read, if_pos rfl, FloatWidth.numericText?_cell]
  rfl

/-! ## What an integer member gets -/

/--
On a row with a float, a plan delivers the integer of a kind that the shortest digits of
the float denote, if the value of the float is an integer of the kind.

That integer is the value exactly if none with more zeros reads back. If it is not of the
kind, or if the value of the float is no integer, the row fails at the plan.
-/
structure DeliversShortest
    (binder : Binder τ)
    (record : RowRecord)
    (earlier : List ColumnPlan)
    (plan : ColumnPlan)
    (kind : IntegerKind)
    {format : FloatFormat}
    (float : Floating format) : Prop where
  ofInteger : ∀ exact : Int, float.toRat? = some (exact : Rat) → kind.Contains exact →
    ∃ short, float.IsShortestInteger exact short ∧
      ((∃ inRange, binder.extract record plan = .ok (.integer ⟨kind, short, inRange⟩)) ∨
        ¬ kind.Contains short ∧
          binder.FailsAt record earlier plan
            (.conversion plan.column (.overflow (Text.ofInt short) kind.name))) ∧
      (short = exact ↔
        ∀ more other, (10 : Int) ^ more ≤ |exact| → ¬ (10 : Int) ^ more ∣ exact →
          (10 : Int) ^ more ∣ other → float.equal (.ofInt other) = false) ∧
      (exact.natAbs < 2 * twoPow format.fractionBits → short = exact)
  ofOther : (∀ exact : Int, float.toRat? ≠ some (exact : Rat)) →
    binder.FailsAt record earlier plan
      (.conversion plan.column (.parse float.toText kind.name))

theorem HasPlan.deliversShortest
    {binder : Binder τ}
    {earlier : List ColumnPlan}
    {plan : ColumnPlan}
    {record : RowRecord}
    {ordinal : Nat}
    {float : Floating width.format}
    (hasPlan : compiler.HasPlan binder earlier plan ordinal column member)
    (isFloat : column.dataType = width.dataType)
    (isInteger : member.declaredType.dataType? = some (.integer kind))
    (notJson : member.isJson = false)
    (holds : record.Holds ordinal (width.cell float)) :
    DeliversShortest binder record earlier plan kind float := by
  have isValue : compiler.cellValue record ordinal column member = _ :=
    cellValue_of_float isFloat isInteger nofun notJson holds
  have isText := Floating.trimChars_toText width.separatesDigits float
  rw [← hasPlan.column_eq] at isValue
  constructor
  · intro exact isExact inRange
    obtain ⟨short, reads, isShortest⟩ :=
      Floating.exists_isShortestInteger width.separatesDigits isExact
    rw [← isText] at reads
    have isTextInteger := inRange.isTextInteger (isShortest.natAbs_le isExact)
    rw [Value.convert_string_of_readInt? _ kind reads isTextInteger] at isValue
    refine ⟨short, isShortest, ?_, isShortest.eq_iff isExact,
      isShortest.eq_of_lt isExact width.leastExponent_nonpos⟩
    unfold Value.narrow Integer.ofInt? at isValue
    by_cases shortInRange : kind.Contains short
    · rw [dif_pos shortInRange] at isValue
      exact .inl ⟨shortInRange, (hasPlan.extract_eq record).trans isValue⟩
    · rw [dif_neg shortInRange] at isValue
      exact .inr ⟨shortInRange, hasPlan.failsAt isValue⟩
  · intro noInteger
    have noNumber := Floating.readInt?_toText_eq_none width.separatesDigits noInteger
    rw [← isText] at noNumber
    rw [Value.convert_string_of_readInt?_eq_none _ kind noNumber] at isValue
    exact hasPlan.failsAt isValue

/-- A float column binds to every integer member that is not JSON, and delivers the
integers that the shortest digits of its floats denote. -/
theorem deliversShortest_of_float
    {compiler : Compiler}
    {column : ColumnDescriptor}
    {member : MemberDescriptor τ}
    {kind : IntegerKind}
    {width : FloatWidth}
    (isFloat : column.dataType = width.dataType)
    (isInteger : member.declaredType.dataType? = some (.integer kind))
    (notJson : member.isJson = false) :
    (∀ ordinal sink, ∃ plan, planColumn ordinal column member sink = .ok plan) ∧
      ∀ {typeName : String}
        {target : TargetDescriptor τ}
        {schema : RowSchema}
        {binder : Binder τ}
        {ordinal : Nat},
        compiler.build typeName target schema = .ok binder →
          Binds target schema ordinal column member →
            ∃ earlier plan, compiler.HasPlan binder earlier plan ordinal column member ∧
              ∀ (record : RowRecord) (float : Floating width.format),
                record.Holds ordinal (width.cell float) →
                  DeliversShortest binder record earlier plan kind float := by
  refine ⟨exists_planColumn_of_takesTexts isFloat isInteger nofun notJson rfl,
    fun compiles binds => ?_⟩
  obtain ⟨earlier, plan, hasPlan⟩ := exists_hasPlan compiles binds
  exact ⟨earlier, plan, hasPlan, fun record float holds =>
    hasPlan.deliversShortest isFloat isInteger notJson holds⟩

end Cell

/-! ### Whole numbers in double columns -/

/-- A member that is a whole number. -/
def wholeMember : MemberDescriptor Value where
  name := ""
  declaredType := .primitive (.integer .int64) nofun

/-- A target that is a whole number. -/
def wholeNumber : TargetDescriptor Value :=
  .scalar "WholeNumber" wholeMember.declaredType wholeMember.isNullable .ok

/-- A column of doubles. -/
def doubleColumn : ColumnDescriptor where
  name := "number"
  dataType := .float64

/-- A row with one double. -/
def doubleRow (float : Float64Value) : RowRecord where
  isNull _ := .ok false
  value _ := .ok (.float64 float)

theorem binds_doubleColumn : Binds wholeNumber ⟨[doubleColumn]⟩ 0 doubleColumn wholeMember :=
  ⟨rfl, rfl, rfl⟩

theorem holds_doubleRow (float : Float64Value) :
    (doubleRow float).Holds 0 (FloatWidth.double.cell float) :=
  ⟨rfl, rfl⟩

theorem exists_build_wholeNumber :
    ∃ binder, ({} : Compiler).build "WholeNumber" wholeNumber ⟨[doubleColumn]⟩ = .ok binder ∧
      binder.construction = .scalar .ok :=
  ⟨_, rfl, rfl⟩

/-- The greatest odd double. -/
def greatestOdd : Float64Value :=
  .signed false (1076 * twoPow 52 - 1) (by decide)

theorem extract_greatestOdd :
    greatestOdd.toRat? = some (9007199254740991 : Int) ∧
      ∃ binder plan,
        ({} : Compiler).build "WholeNumber" wholeNumber ⟨[doubleColumn]⟩ = .ok binder ∧
          plan ∈ binder.plans ∧
            binder.extract (doubleRow greatestOdd) plan =
              .ok (.integer ⟨.int64, 9007199254740991, by decide⟩) ∧
            binder.extract (doubleRow .nan) plan =
              .error (.conversion "number" (.parse "NaN" "Int64")) := by
  have isExact : greatestOdd.toRat? = some (9007199254740991 : Int) := by decide +kernel
  have isFloat : doubleColumn.dataType = FloatWidth.double.dataType := rfl
  have isInteger : wholeMember.declaredType.dataType? = some (.integer .int64) := rfl
  obtain ⟨binder, compiles, _⟩ := exists_build_wholeNumber
  obtain ⟨earlier, plan, hasPlan, delivers⟩ :=
    (deliversShortest_of_float isFloat isInteger rfl).2 compiles binds_doubleColumn
  obtain ⟨later, isPlans⟩ := hasPlan.exists_later
  refine ⟨isExact, binder, plan, compiles, by simp [isPlans], ?_, ?_⟩
  · obtain ⟨short, _, isCell, _, ofSmall⟩ :=
      (delivers _ greatestOdd (holds_doubleRow _)).ofInteger _ isExact (by decide)
    obtain rfl := ofSmall (by decide +kernel)
    exact (isCell.resolve_right fun fails => absurd (by decide) fails.1).2
  · have fails := ((delivers _ .nan (holds_doubleRow _)).ofOther nofun).1
    rwa [hasPlan.column_eq] at fails

/-- The greatest double below two to the power of sixty-three. -/
def belowTwoPow63 : Float64Value :=
  .signed false (1086 * twoPow 52 - 1) (by decide)

/-- A whole number can come to an integer member as another one. -/
theorem bind_belowTwoPow63 :
    belowTwoPow63.toRat? = some (9223372036854774784 : Int) ∧
      IntegerKind.int64.Contains 9223372036854774784 ∧
        ∃ binder, ({} : Compiler).build "WholeNumber" wholeNumber ⟨[doubleColumn]⟩ = .ok binder ∧
          binder.bind (doubleRow belowTwoPow63) =
            .ok (.integer ⟨.int64, 9223372036854775000, by decide⟩) := by
  have reads : Text.readInt? (Text.trimChars belowTwoPow63.toText.toList) =
      some 9223372036854775000 := by
    decide +kernel
  have converts : (Value.string belowTwoPow63.toText).convert DateTime.defaultLayouts
      (.integer .int64) = .ok (.integer ⟨.int64, 9223372036854775000, by decide⟩) :=
    Value.convert_string_of_readInt? _ .int64 reads (by decide)
  have isFloat : doubleColumn.dataType = FloatWidth.double.dataType := rfl
  have isInteger : wholeMember.declaredType.dataType? = some (.integer .int64) := rfl
  have isValue : ({} : Compiler).cellValue (doubleRow belowTwoPow63) 0 doubleColumn wholeMember =
      .ok (.integer ⟨.int64, 9223372036854775000, by decide⟩) :=
    (cellValue_of_float isFloat isInteger nofun rfl (holds_doubleRow belowTwoPow63)).trans
      (congrArg (Except.mapError _) converts)
  obtain ⟨binder, compiles, made⟩ := exists_build_wholeNumber
  obtain ⟨_, _, hasPlan⟩ := exists_hasPlan compiles binds_doubleColumn
  refine ⟨by decide +kernel, by decide, binder, compiles, ?_⟩
  rw [hasPlan.bind_eq_of_scalar made, isValue]
  rfl

end Compiler
end RowBinding
