import RowBinding.Proofs.NumericValues

/-!
# Conversion into integers

A truth value, a character, an integer, a float and a decimal convert to the
integer that is nearest to the number they stand for, and of two such integers to
the even one. If that integer is not of the kind that is asked for, or if a float
stands for no number, the conversion says that the value is out of range. Nothing
wraps, so the kinds that a value passes on its way make no difference.
-/

namespace RowBinding

/-- The types whose values convert to integers by a number that they stand for. -/
def DataType.IsQuantity : DataType → Prop
  | .boolean | .integer _ | .float32 | .float64 | .decimal | .char => True
  | .object | .string | .dateTime | .guid | .bytes | .time => False

namespace Value

/-- The number that a value stands for: a truth value is one or zero, and a character its
code point. -/
def quantity? : Value → Option Rat
  | .boolean value => some (if value then 1 else 0)
  | .char value => some value.toNat
  | value => value.toRat?

variable {value : Value} {source : DataType} {kind : IntegerKind}

/-! ## Nearest integers -/

/-- A float is refused as an integer only if it is beyond every kind. -/
theorem floatToInt_of_toRat?
    {float : Float64Value}
    {exact : Rat}
    (isExact : float.toRat? = some exact)
    (target : DataType) :
    floatToInt float target = .ok (Rounding.nearestEven exact) ∨
      (∀ kind : IntegerKind, ¬ kind.Contains (Rounding.nearestEven exact)) ∧
        floatToInt float target = .error (.overflow float.toText target.name) := by
  unfold floatToInt
  rw [isExact]
  dsimp only
  split_ifs with small
  · exact .inl rfl
  · refine .inr ⟨fun kind inRange => small ?_, rfl⟩
    have isSmall := inRange.natAbs_le
    unfold floatIntegerLimit
    omega

theorem floatToInt_of_toRat?_eq_none
    {float : Float64Value}
    (noNumber : float.toRat? = none)
    (target : DataType) :
    floatToInt float target = .error (.overflow float.toText target.name) := by
  rw [floatToInt, noNumber]

/-- A value that stands for a number is taken as the nearest integer, unless it is a float
beyond every kind. -/
theorem toInt_of_quantity?
    (typed : value.dataType? = some source)
    (isQuantity : source.IsQuantity)
    {exact : Rat}
    (isExact : value.quantity? = some exact)
    (target : DataType) :
    value.toInt target = .ok (Rounding.nearestEven exact) ∨
      (∀ kind : IntegerKind, ¬ kind.Contains (Rounding.nearestEven exact)) ∧
        ∃ text, value.toInt target = .error (.overflow text target.name) := by
  cases value with
  | boolean truth =>
      cases isExact
      refine .inl (congrArg Except.ok ?_)
      cases truth with
      | false => exact (Rounding.nearestEven_intCast 0).symm
      | true => exact (Rounding.nearestEven_intCast 1).symm
  | integer number =>
      cases isExact
      exact .inl (congrArg Except.ok (Rounding.nearestEven_intCast _).symm)
  | char letter =>
      cases isExact
      exact .inl (congrArg Except.ok (Rounding.nearestEven_intCast letter.toNat).symm)
  | decimal number =>
      cases isExact
      exact .inl rfl
  | float32 float =>
      have isWidened : (float.toFormat binary64).toRat? = some exact :=
        (Floating.toRat?_toFormat FloatFormat.widens_binary32_binary64 float).trans isExact
      exact (floatToInt_of_toRat? isWidened target).imp_right fun ⟨beyond, refused⟩ =>
        ⟨beyond, _, refused⟩
  | float64 float =>
      exact (floatToInt_of_toRat? isExact target).imp_right fun ⟨beyond, refused⟩ =>
        ⟨beyond, _, refused⟩
  | null | string | dateTime | guid | bytes | json | list | record | quoted =>
      cases typed <;> cases isQuantity

/-- A value that stands for no number is an infinity or not a number, and is refused. -/
theorem toInt_of_quantity?_eq_none
    (typed : value.dataType? = some source)
    (isQuantity : source.IsQuantity)
    (noNumber : value.quantity? = none)
    (target : DataType) :
    ∃ text, value.toInt target = .error (.overflow text target.name) := by
  cases value with
  | boolean | integer | char | decimal => cases noNumber
  | float32 float =>
      have isWidened : (float.toFormat binary64).toRat? = none :=
        (Floating.toRat?_toFormat FloatFormat.widens_binary32_binary64 float).trans noNumber
      exact ⟨_, floatToInt_of_toRat?_eq_none isWidened target⟩
  | float64 float => exact ⟨_, floatToInt_of_toRat?_eq_none noNumber target⟩
  | null | string | dateTime | guid | bytes | json | list | record | quoted =>
      cases typed <;> cases isQuantity

theorem floatToInt_eq_ok
    {float : Float64Value}
    {number : Int}
    {target : DataType}
    (isNear : floatToInt float target = .ok number)
    (other : DataType) :
    floatToInt float other = .ok number := by
  unfold floatToInt at isNear ⊢
  split at isNear
  · dsimp only at isNear ⊢
    split at isNear
    · next small => exact (if_pos small).trans isNear
    · cases isNear
  · cases isNear

/-- What a value is taken as does not depend on the type that asks for it. -/
theorem toInt_eq_ok
    {number : Int}
    {target : DataType}
    (isNumber : value.toInt target = .ok number)
    (other : DataType) :
    value.toInt other = .ok number := by
  cases value with
  | boolean | integer | char | decimal => exact isNumber
  | float32 | float64 => exact floatToInt_eq_ok isNumber other
  | string text =>
      unfold toInt at isNumber ⊢
      dsimp only at isNumber ⊢
      split at isNumber
      · split at isNumber
        · next fits => exact (if_pos fits).trans isNumber
        · cases isNumber
      · cases isNumber
  | null | dateTime | guid | bytes | json | list | record | quoted => cases isNumber

/-! ## Conversion -/

/-- A value that is not null is taken as an integer and brought to the kind. -/
theorem convert_integer
    (notNull : value.isNull = false)
    (layouts : List String)
    (kind : IntegerKind) :
    value.convert layouts (.integer kind) = (value.toInteger kind).map Value.integer := by
  by_cases same : value.dataType? = some (.integer kind)
  · -- An integer of the kind stays as it is, which is what bringing it to the kind yields.
    cases value with
    | integer number =>
        obtain ⟨_, number, inRange⟩ := number
        cases same
        rw [convert_of_dataType? layouts rfl, toInteger, toInt, Outcome.ok_bind,
          narrow_of_contains inRange]
        rfl
    | _ => cases same
  · rw [convert, if_neg (by simpa using same), notNull]
    rfl

/-- What a value of a kind came from converts on like it. -/
theorem convert_integer_of_convert
    {layouts : List String}
    {between : IntegerKind}
    {passed : Value}
    (notNull : value.isNull = false)
    (passes : value.convert layouts (.integer between) = .ok passed)
    (kind : IntegerKind) :
    passed.convert layouts (.integer kind) = value.convert layouts (.integer kind) := by
  rw [convert_integer notNull] at passes ⊢
  obtain ⟨integer, isInteger, rfl⟩ := Outcome.map_eq_ok_iff.mp passes
  obtain ⟨number, isNumber, narrows⟩ := Outcome.bind_eq_ok_iff.mp isInteger
  rw [convert_integer rfl, toInteger, toInteger, toInt_eq_ok isNumber, toInt,
    value_of_narrow narrows]

/-- A value converts to the integer nearest to the number that it stands for, wherever that
integer is of the kind, and is out of range everywhere else. -/
structure ConvertsToNearest (value : Value) (layouts : List String) : Prop where
  ofNumber : ∀ exact, value.quantity? = some exact →
    ∃ nearest, (∀ number, Rounding.IsNearestEven exact number ↔ number = nearest) ∧
      ∀ kind : IntegerKind,
        (∃ inRange, value.convert layouts (.integer kind) =
            .ok (.integer ⟨kind, nearest, inRange⟩)) ∨
          ¬ kind.Contains nearest ∧
            ∃ text, value.convert layouts (.integer kind) = .error (.overflow text kind.name)
  ofOther : value.quantity? = none → ∀ kind : IntegerKind,
    ∃ text, value.convert layouts (.integer kind) = .error (.overflow text kind.name)
  through : ∀ (between kind : IntegerKind) (passed : Value),
    value.convert layouts (.integer between) = .ok passed →
      passed.convert layouts (.integer kind) = value.convert layouts (.integer kind)

/-- Every value of a type of quantities converts to the nearest integer, whatever kinds of
integer it passes on its way. -/
theorem convertsToNearest_of_isQuantity
    (typed : value.dataType? = some source)
    (isQuantity : source.IsQuantity)
    (layouts : List String) :
    value.ConvertsToNearest layouts := by
  have notNull := isNull_of_dataType? typed
  have refuses {kind : IntegerKind} {text : String}
      (refused : value.toInt (.integer kind) = .error (.overflow text kind.name)) :
      value.convert layouts (.integer kind) = .error (.overflow text kind.name) := by
    rw [convert_integer notNull, toInteger, refused]
    rfl
  constructor
  · intro exact isExact
    refine ⟨_, fun number => Rounding.isNearestEven_iff, fun kind => ?_⟩
    rcases toInt_of_quantity? typed isQuantity isExact (.integer kind) with
      isNumber | ⟨beyond, text, refused⟩
    · rw [convert_integer notNull, toInteger, isNumber, Outcome.ok_bind]
      by_cases inRange : kind.Contains (Rounding.nearestEven exact)
      · rw [narrow_of_contains inRange]
        exact .inl ⟨inRange, rfl⟩
      · rw [narrow_of_not_contains inRange]
        exact .inr ⟨inRange, _, rfl⟩
    · exact .inr ⟨beyond kind, text, refuses refused⟩
  · intro noNumber kind
    obtain ⟨text, refused⟩ := toInt_of_quantity?_eq_none typed isQuantity noNumber (.integer kind)
    exact ⟨text, refuses refused⟩
  · intro between kind passed passes
    exact convert_integer_of_convert notNull passes kind

/-- The decimal minus two and a half. -/
def minusTwoAndHalf : Decimal :=
  .ofFewDigits true 25 1

/-- Minus two and a half goes to minus two, which no kind without a sign has. -/
theorem convert_minusTwoAndHalf :
    (Value.decimal minusTwoAndHalf).convert [] (.integer .sbyte) =
        .ok (.integer ⟨.sbyte, -2, by decide⟩) ∧
      (∃ text, (Value.decimal minusTwoAndHalf).convert [] (.integer .uint64) =
        .error (.overflow text "UInt64")) ∧
      ∃ text, (Value.float32 .nan).convert [] (.integer .int16) =
        .error (.overflow text "Int16") := by
  have isDecimal : (Value.decimal minusTwoAndHalf).dataType? = some .decimal := rfl
  have isFloat : (Value.float32 .nan).dataType? = some .float32 := rfl
  have isRounded : Rounding.nearestEven minusTwoAndHalf.toRat = -2 := by decide +kernel
  obtain ⟨nearest, onlyNearest, converts⟩ :=
    (convertsToNearest_of_isQuantity isDecimal trivial []).ofNumber minusTwoAndHalf.toRat rfl
  obtain rfl : -2 = nearest :=
    (onlyNearest (-2)).mp (isRounded ▸ Rounding.isNearestEven_nearestEven _)
  refine ⟨?_, ?_, (convertsToNearest_of_isQuantity isFloat trivial []).ofOther rfl .int16⟩
  · exact ((converts .sbyte).resolve_right fun outside => outside.1 (by decide)).2
  · rcases converts .uint64 with ⟨inRange, _⟩ | ⟨_, overflows⟩
    · exact absurd inRange (by decide)
    · exact overflows

end Value
end RowBinding
