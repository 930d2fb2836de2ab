import RowBinding.Expression.Arithmetic
import RowBinding.Proofs.Number.NormalDecimals
import RowBinding.Proofs.NumericValues
import RowBinding.Value.Equality

/-!
# What values are equal to

Two values are equal if they have one normal form, in which zeros are positive
and decimals are without zeros at the end. Only what is not a number and a quoted
expression, anywhere inside, keep a value from being equal to itself.

Under the comparison operators two numbers with decimals are equal if the
decimals are, and all other values as values. The two ways agree where they meet:
equal values have the same decimal, or none. So a value with a decimal is never
equal to one without.
-/

namespace RowBinding

/-! ## Normal forms of numbers -/

namespace Floating

variable {format : FloatFormat}

/-- A float with zero as the positive one. -/
def normalForm (float : Floating format) : Floating format :=
  if float.isZero then zero false else float

theorem equal_iff (first second : Floating format) :
    first.equal second = true ↔ first ≠ .nan ∧ first.normalForm = second.normalForm := by
  cases first with
  | nan => simp
  | signed negative rank bounded =>
      cases second with
      | nan =>
          rw [equal_nan_right]
          unfold normalForm
          split <;> simp [isZero, zero]
      | signed otherNegative otherRank otherBounded =>
          simp only [equal, normalForm, isZero, zero]
          grind

theorem isFinite_normalForm
    (infinite : 0 < format.infinityRank)
    (float : Floating format) :
    float.normalForm.isFinite = float.isFinite := by
  unfold normalForm
  split
  · next isZero =>
      rw [isFinite, isFinite, (toRat?_eq_zero_iff infinite float).mpr isZero,
        (toRat?_eq_zero_iff infinite (zero false)).mpr rfl]
  · rfl

end Floating

namespace Decimal

theorem IsNormal.negative_eq {decimal : Decimal} (isNormal : decimal.IsNormal) :
    decimal.negative = decide (decimal.toRat < 0) := by
  have nonnegative := decimal.magnitude_nonneg
  cases isNegative : decimal.negative with
  | false => simp [toRat, isNegative, nonnegative]
  | true =>
      have notZero : decimal.mantissa ≠ 0 := fun isZero => by
        rw [isNormal.zeroPositive isZero] at isNegative
        cases isNegative
      have positive : 0 < decimal.magnitude :=
        div_pos (Nat.cast_pos.mpr (Nat.pos_of_ne_zero notZero)) (Nat.cast_pos.mpr (tenPow_pos _))
      simp [toRat, isNegative, positive]

/-- A decimal with no more places than a normal one of its magnitude is this one. -/
theorem IsNormal.eq_of_magnitude_eq
    {first second : Decimal}
    (isNormal : second.IsNormal)
    (ordered : first.scale ≤ second.scale)
    (same : first.magnitude = second.magnitude) :
    first.mantissa = second.mantissa ∧ first.scale = second.scale := by
  obtain ⟨more, isMore⟩ := Nat.exists_eq_add_of_le ordered
  have isMultiple : second.mantissa = first.mantissa * tenPow more := by
    rw [magnitude, magnitude, div_eq_div_iff (natCast_tenPow_ne_zero _)
      (natCast_tenPow_ne_zero _)] at same
    have products : first.mantissa * tenPow second.scale =
        second.mantissa * tenPow first.scale := by exact_mod_cast same
    rw [isMore, show tenPow (first.scale + more) = _ from Nat.pow_add 10 _ _, ← Nat.mul_assoc,
      Nat.mul_right_comm] at products
    exact (Nat.eq_of_mul_eq_mul_right (tenPow_pos _) products).symm
  cases more with
  | zero => exact ⟨by rw [isMultiple, tenPow_zero, Nat.mul_one], isMore.symm⟩
  | succ more =>
      -- A mantissa with zeros moved behind it would end in one.
      have endsInZero : second.mantissa % 10 = 0 := by
        rw [isMultiple, tenPow_succ, ← Nat.mul_assoc, Nat.mul_mod_left]
      rcases isNormal.noZeros with isWhole | notMultiple
      · omega
      · exact absurd endsInZero notMultiple

/-- Decimals of one value have one normal form. -/
theorem normalize_eq_iff (first second : Decimal) :
    first.normalize = second.normalize ↔ first.toRat = second.toRat := by
  constructor
  · intro same
    rw [← first.toRat_normalize, same, second.toRat_normalize]
  · intro same
    rw [← first.toRat_normalize, ← second.toRat_normalize] at same
    have firstNormal := first.isNormal_normalize
    have secondNormal := second.isNormal_normalize
    generalize first.normalize = first at same firstNormal ⊢
    generalize second.normalize = second at same secondNormal ⊢
    have sameMagnitude : first.magnitude = second.magnitude := by
      rw [← abs_toRat, same, abs_toRat]
    have parts : first.mantissa = second.mantissa ∧ first.scale = second.scale := by
      rcases le_total first.scale second.scale with ordered | ordered
      · exact secondNormal.eq_of_magnitude_eq ordered sameMagnitude
      · have turned := firstNormal.eq_of_magnitude_eq ordered sameMagnitude.symm
        exact ⟨turned.1.symm, turned.2.symm⟩
    have sameSign : first.negative = second.negative := by
      rw [firstNormal.negative_eq, same, secondNormal.negative_eq]
    obtain ⟨negative, mantissa, scale, _, _⟩ := first
    obtain ⟨otherNegative, otherMantissa, otherScale, _, _⟩ := second
    obtain ⟨rfl, rfl⟩ := parts
    obtain rfl : negative = otherNegative := sameSign
    rfl

end Decimal

/-! ## Normal forms of documents -/

/-- A number of a document with zero as the positive one. -/
def JsonNumber.normalForm : JsonNumber → JsonNumber
  | .integer value inRange => .integer value inRange
  | .float value finite =>
      .float value.normalForm ((value.isFinite_normalForm (by decide)).trans finite)

theorem JsonNumber.equal_iff (first second : JsonNumber) :
    first.equal second = true ↔ first.normalForm = second.normalForm := by
  cases first with
  | integer value inRange => cases second <;> simp [equal, normalForm]
  | float value finite =>
      cases second with
      | integer => simp [equal, normalForm]
      | float other otherFinite =>
          have isNumber : value ≠ .nan := by
            rintro rfl
            cases finite
          rw [equal, Floating.equal_iff, and_iff_right isNumber, normalForm, normalForm,
            float.injEq]

namespace Json

mutual

/-- A document with positive zeros only. -/
def normalForm : Json → Json
  | .number value => .number value.normalForm
  | .array items => .array (normalItems items)
  | .object members => .object (normalMembers members)
  | other => other

/-- The items of an array with positive zeros only. -/
def normalItems : List Json → List Json
  | [] => []
  | item :: rest => normalForm item :: normalItems rest

/-- The members of an object with positive zeros only. -/
def normalMembers : List (String × Json) → List (String × Json)
  | [] => []
  | (key, value) :: rest => (key, normalForm value) :: normalMembers rest

end

mutual

/-- Documents are equal exactly if their normal forms are the same. -/
theorem equal_iff (first second : Json) :
    first.equal second = true ↔ first.normalForm = second.normalForm := by
  cases first with
  | number value => cases second <;> simp [equal, normalForm, value.equal_iff]
  | array items => cases second <;> simp [equal, normalForm, equalItems_iff items]
  | object members => cases second <;> simp [equal, normalForm, equalMembers_iff members]
  | _ => cases second <;> simp [equal, normalForm]

theorem equalItems_iff (first second : List Json) :
    equalItems first second = true ↔ normalItems first = normalItems second := by
  cases first with
  | nil => cases second <;> simp [equalItems, normalItems]
  | cons item rest =>
      cases second <;> simp [equalItems, normalItems, equal_iff item, equalItems_iff rest]

theorem equalMembers_iff (first second : List (String × Json)) :
    equalMembers first second = true ↔ normalMembers first = normalMembers second := by
  match first with
  | [] => cases second <;> simp [equalMembers, normalMembers]
  | (key, value) :: rest =>
      cases second <;>
        simp [equalMembers, normalMembers, equal_iff value, equalMembers_iff rest, and_assoc]

end

end Json

/-! ## Normal forms of values -/

namespace Value

mutual

/-- A value with positive zeros and normal decimals only. -/
def normalForm : Value → Value
  | .float32 value => .float32 value.normalForm
  | .float64 value => .float64 value.normalForm
  | .decimal value => .decimal value.normalize
  | .json document => .json document.normalForm
  | .list items => .list (normalItems items)
  | .record typeName fields => .record typeName (normalFields fields)
  | other => other
termination_by structural value => value

/-- The items of a list with positive zeros and normal decimals only. -/
def normalItems : List Value → List Value
  | [] => []
  | item :: rest => normalForm item :: normalItems rest
termination_by structural items => items

/-- The fields of a record with positive zeros and normal decimals only. -/
def normalFields : List (String × Value) → List (String × Value)
  | [] => []
  | (name, value) :: rest => (name, normalForm value) :: normalFields rest
termination_by structural fields => fields

end

mutual

/-- Nothing in the value is a float that is not a number, or a quoted expression. -/
def isComparable : Value → Bool
  | .float32 value => value != .nan
  | .float64 value => value != .nan
  | .list items => areComparable items
  | .record _ fields => haveComparable fields
  | .quoted _ => false
  | _ => true
termination_by structural value => value

/-- All items are comparable. -/
def areComparable : List Value → Bool
  | [] => true
  | item :: rest => isComparable item && areComparable rest
termination_by structural items => items

/-- The values of all fields are comparable. -/
def haveComparable : List (String × Value) → Bool
  | [] => true
  | (_, value) :: rest => isComparable value && haveComparable rest
termination_by structural fields => fields

end

mutual

/-- The normal form says whether a value is comparable. -/
theorem isComparable_normalForm (value : Value) :
    value.normalForm.isComparable = value.isComparable := by
  cases value with
  | float32 float | float64 float =>
      cases float with
      | nan => rfl
      | signed =>
          rw [normalForm, Floating.normalForm]
          split <;> rfl
  | list items => exact areComparable_normalItems items
  | record typeName fields => exact haveComparable_normalFields fields
  | _ => rfl
termination_by structural value

theorem areComparable_normalItems (items : List Value) :
    areComparable (normalItems items) = areComparable items := by
  cases items with
  | nil => rfl
  | cons item rest =>
      rw [normalItems, areComparable, areComparable, isComparable_normalForm item,
        areComparable_normalItems rest]
termination_by structural items

theorem haveComparable_normalFields (fields : List (String × Value)) :
    haveComparable (normalFields fields) = haveComparable fields := by
  match fields with
  | [] => rfl
  | (name, value) :: rest =>
      rw [normalFields, haveComparable, haveComparable, isComparable_normalForm value,
        haveComparable_normalFields rest]
termination_by structural fields

end

mutual

/-- A comparable value equals exactly the values with its normal form, and other values
equal none. -/
theorem equal_iff (first second : Value) :
    first.equal second = true ↔
      first.isComparable = true ∧ first.normalForm = second.normalForm := by
  cases first with
  | float32 value | float64 value =>
      cases second <;> simp [equal, isComparable, normalForm, value.equal_iff]
  | decimal value =>
      cases second <;>
        simp [equal, isComparable, normalForm, value.equal_iff, value.normalize_eq_iff]
  | json document =>
      cases second <;> simp [equal, isComparable, normalForm, document.equal_iff]
  | list items =>
      cases second <;> simp [equal, isComparable, normalForm, equalItems_iff items]
  | record typeName fields =>
      cases second <;>
        simp [equal, isComparable, normalForm, equalFields_iff fields, and_left_comm]
  | _ => cases second <;> simp [equal, isComparable, normalForm]
termination_by structural first

theorem equalItems_iff (first second : List Value) :
    equalItems first second = true ↔
      areComparable first = true ∧ normalItems first = normalItems second := by
  cases first with
  | nil => cases second <;> simp [equalItems, areComparable, normalItems]
  | cons item rest =>
      cases second with
      | nil => simp [equalItems, normalItems]
      | cons other others =>
          simp only [equalItems, areComparable, normalItems, Bool.and_eq_true, equal_iff item,
            equalItems_iff rest, List.cons.injEq]
          exact and_and_and_comm
termination_by structural first

theorem equalFields_iff (first second : List (String × Value)) :
    equalFields first second = true ↔
      haveComparable first = true ∧ normalFields first = normalFields second := by
  match first, second with
  | [], [] => simp [equalFields, haveComparable, normalFields]
  | [], _ :: _ => simp [equalFields, normalFields]
  | _ :: _, [] => simp [equalFields, normalFields]
  | (name, value) :: rest, (otherName, other) :: others =>
      simp only [equalFields, haveComparable, normalFields, Bool.and_eq_true, equal_iff value,
        equalFields_iff rest, List.cons.injEq, Prod.mk.injEq, beq_iff_eq]
      grind
termination_by structural first

end

theorem equal_symm {first second : Value} (same : first.equal second = true) :
    second.equal first = true := by
  obtain ⟨isComparable, sameForm⟩ := (equal_iff first second).mp same
  rw [← isComparable_normalForm, sameForm, isComparable_normalForm] at isComparable
  exact (equal_iff second first).mpr ⟨isComparable, sameForm.symm⟩

theorem equal_trans
    {first second third : Value}
    (same : first.equal second = true)
    (next : second.equal third = true) :
    first.equal third = true := by
  obtain ⟨isComparable, sameForm⟩ := (equal_iff first second).mp same
  obtain ⟨_, nextForm⟩ := (equal_iff second third).mp next
  exact (equal_iff first third).mpr ⟨isComparable, sameForm.trans nextForm⟩

/-! ## Equality under the comparison operators -/

/-- The value of the decimal that a number is compared by, if it has one. -/
def decimal? (value : Value) : Option Rat :=
  if value.isNumeric then value.toDecimal.toOption.map Decimal.toRat else none

section Float

variable
  {format : FloatFormat}
  (separates : format.SeparatesDigits)
  (fine : format.leastExponent ≤ 0)
  (narrow : 2 * twoPow format.fractionBits ≤ mantissaBound)
  (infinite : 0 < format.infinityRank)

include separates fine narrow infinite

/-- The decimal of a zero is zero whatever its sign. -/
theorem map_decimalOfText_of_isZero
    {float : Floating format}
    (isZero : float.isZero = true) :
    (decimalOfText float.toText).toOption.map Decimal.toRat = some 0 := by
  have isExact : float.toRat? = some ((0 : Int) : Rat) := by
    rw [Int.cast_zero, Floating.toRat?_eq_zero_iff infinite]
    exact isZero
  have small : Int.natAbs 0 < 2 * twoPow format.fractionBits :=
    Nat.mul_pos Nat.two_pos (twoPow_pos _)
  obtain ⟨read, reads, isValue⟩ :=
    Floating.exists_read?_toText_eq separates fine narrow isExact small
  rw [decimalOfText_of_read? separates reads]
  exact congrArg some (isValue.trans Int.cast_zero)

theorem map_decimalOfText_normalForm (float : Floating format) :
    (decimalOfText float.normalForm.toText).toOption.map Decimal.toRat =
      (decimalOfText float.toText).toOption.map Decimal.toRat := by
  have zeroDecimal {float : Floating format} (isZero : float.isZero = true) :=
    map_decimalOfText_of_isZero separates fine narrow infinite isZero
  unfold Floating.normalForm
  split
  · next isZero =>
      have zeroIsZero : (Floating.zero false : Floating format).isZero = true := rfl
      rw [zeroDecimal isZero, zeroDecimal zeroIsZero]
  · rfl

end Float

@[simp] theorem decimal?_normalForm (value : Value) :
    value.normalForm.decimal? = value.decimal? := by
  cases value with
  | float32 float =>
      exact map_decimalOfText_normalForm FloatFormat.separatesDigits_binary32 (by decide)
        (by decide) (by decide) float
  | float64 float =>
      exact map_decimalOfText_normalForm FloatFormat.separatesDigits_binary64 (by decide)
        (by decide) (by decide) float
  | decimal decimal => exact congrArg some decimal.toRat_normalize
  | _ => rfl

/-- Equal values have the same decimal, or none. -/
theorem decimal?_eq_of_equal {left right : Value} (same : left.equal right = true) :
    left.decimal? = right.decimal? := by
  rw [← left.decimal?_normalForm, ((equal_iff left right).mp same).2, right.decimal?_normalForm]

/-- Values are compared by their decimals if both have one, and else as values. -/
theorem valuesEqual_eq (left right : Value) :
    left.valuesEqual right =
      match left.decimal?, right.decimal? with
      | some first, some second => first == second
      | _, _ => left.equal right := by
  unfold valuesEqual decimal?
  cases left.isNumeric with
  | false => rfl
  | true =>
      cases right.isNumeric with
      | false => cases left.toDecimal <;> rfl
      | true => cases left.toDecimal <;> cases right.toDecimal <;> rfl

/-- Values compare equal if they have the same decimal, or none and are equal as values. -/
theorem valuesEqual_iff_decimal? (left right : Value) :
    left.valuesEqual right = true ↔
      left.decimal? = right.decimal? ∧ (left.decimal? = none → left.equal right = true) := by
  have sameDecimal := @decimal?_eq_of_equal left right
  rw [valuesEqual_eq]
  cases isLeft : left.decimal? <;> cases isRight : right.decimal? <;> grind

theorem isComparable_of_decimal?
    {value : Value}
    {number : Rat}
    (isDecimal : value.decimal? = some number) :
    value.isComparable = true := by
  unfold decimal? at isDecimal
  split at isDecimal
  · next isNumeric =>
      obtain ⟨denoted, hasDecimal, _⟩ := Option.map_eq_some_iff.mp isDecimal
      rw [Outcome.toOption_eq_some_iff] at hasDecimal
      obtain ⟨exact, isExact⟩ := exists_toRat?_of_toDecimal isNumeric hasDecimal
      cases value with
      | float32 float | float64 float =>
          cases float with
          | nan => cases isExact
          | signed => rfl
      | integer | decimal => rfl
      | _ => cases isNumeric
  · cases isDecimal

/-- Exactly the comparable values compare equal to themselves. -/
theorem valuesEqual_self_iff (value : Value) :
    value.valuesEqual value = true ↔ value.isComparable = true := by
  rw [valuesEqual_iff_decimal?, equal_iff]
  constructor
  · rintro ⟨_, unlessDecimal⟩
    cases isDecimal : value.decimal? with
    | none => exact (unlessDecimal isDecimal).1
    | some number => exact isComparable_of_decimal? isDecimal
  · exact fun isComparable => ⟨rfl, fun _ => ⟨isComparable, rfl⟩⟩

theorem valuesEqual_symm
    {left right : Value}
    (isEqual : left.valuesEqual right = true) :
    right.valuesEqual left = true := by
  rw [valuesEqual_iff_decimal?] at isEqual ⊢
  obtain ⟨sameDecimal, unlessDecimal⟩ := isEqual
  refine ⟨sameDecimal.symm, fun noDecimal => ?_⟩
  exact equal_symm (unlessDecimal (sameDecimal.trans noDecimal))

theorem valuesEqual_trans
    {left middle right : Value}
    (isEqual : left.valuesEqual middle = true)
    (isNext : middle.valuesEqual right = true) :
    left.valuesEqual right = true := by
  rw [valuesEqual_iff_decimal?] at isEqual isNext ⊢
  obtain ⟨sameDecimal, unlessDecimal⟩ := isEqual
  obtain ⟨sameNext, unlessNext⟩ := isNext
  refine ⟨sameDecimal.trans sameNext, fun noDecimal => ?_⟩
  exact equal_trans (unlessDecimal noDecimal) (unlessNext (sameDecimal.symm.trans noDecimal))

end Value
end RowBinding
