import Mathlib.Order.Compare
import RowBinding.Proofs.Expression.Agreement
import RowBinding.Proofs.NumericValues

/-!
# Comparisons of numbers

Equality compares the decimals of two numbers. So does the order, unless an
operand is statically a 64-bit integer: then it compares the nearest integers,
and a number with a fraction can be neither less nor greater than an integer
that it does not equal. Apart from this the comparisons agree with each other.
-/

namespace RowBinding

/-! ## Evaluated comparisons -/

theorem Eval.isolated_constant
    (environment : Environment)
    (value : Value)
    (state : EvalState) :
    Eval.isolated (Eval.constant environment value) state = (.ok value, state) := by
  cases value <;> rfl

namespace Expr

/-- The comparison of two constants. -/
def comparison (operator : BinaryOperator) (left right : Value) : Expr :=
  .binary operator (.ofValue left) (.ofValue right)

/-- A comparison of two constants evaluates to true. -/
def Holds
    (environment : Environment)
    (operator : BinaryOperator)
    (left right : Value) : Prop :=
  ((comparison operator left right).evaluate environment).result = .ok (.boolean true)

/-- Comparisons and arithmetic of two constants are applied to the constants. -/
theorem result_evaluate_binary_constant
    {operator : BinaryOperator}
    (isPlain : operator.isComparison = true ∨ operator.isArithmetic = true)
    (environment : Environment)
    (left right : Value)
    (leftType rightType : StaticType) :
    ((Expr.binary operator (.constant left leftType) (.constant right rightType)).evaluate
        environment).result =
      operator.apply leftType rightType left right := by
  have isVisit : (Expr.binary operator (.constant left leftType)
      (.constant right rightType)).visit environment = (do
      let first ← Eval.isolated (Eval.constant environment left)
      let second ← Eval.isolated (Eval.constant environment right)
      liftM (operator.apply leftType rightType first second)) := by
    cases operator with
    | andAlso | orElse | arrayIndex => exact isPlain.elim nofun nofun
    | _ => rfl
  change ((Expr.binary operator (.constant left leftType) (.constant right rightType)).visit
    environment {}).1 = _
  rw [isVisit, Eval.bind_apply_of_ok (Eval.isolated_constant environment left _),
    Eval.bind_apply_of_ok (Eval.isolated_constant environment right _)]
  rfl

theorem result_evaluate_binary_ofValue
    {operator : BinaryOperator}
    (isPlain : operator.isComparison = true ∨ operator.isArithmetic = true)
    (environment : Environment)
    (left right : Value) :
    ((Expr.binary operator (.ofValue left) (.ofValue right)).evaluate environment).result =
      operator.apply left.staticType right.staticType left right :=
  result_evaluate_binary_constant isPlain environment left right _ _

theorem result_evaluate_comparison
    {operator : BinaryOperator}
    (isComparison : operator.isComparison = true)
    (environment : Environment)
    (left right : Value) :
    ((comparison operator left right).evaluate environment).result =
      operator.apply left.staticType right.staticType left right :=
  result_evaluate_binary_ofValue (.inl isComparison) environment left right

end Expr

/-! ## What numbers are ordered by -/

namespace Value

variable {left right : Value} {isWide : Bool}

/-- Whether two operands are ordered as 64-bit integers. -/
def comparesWide (left right : Value) : Bool :=
  left.staticType = .int64 || right.staticType = .int64

theorem comparesWide_eq_false_iff (left right : Value) :
    left.comparesWide right = false ↔ left.staticType ≠ .int64 ∧ right.staticType ≠ .int64 := by
  simp [comparesWide]

theorem comparesWide_comm (left right : Value) :
    left.comparesWide right = right.comparesWide left :=
  Bool.or_comm _ _

/-- The number that an operand is ordered by: the nearest integer or the decimal. -/
def orderKey (isWide : Bool) (value : Value) : Except ValueError Rat :=
  if isWide then (value.toInteger .int64).map fun number => (number.value : Rat)
  else value.toDecimal.map Decimal.toRat

theorem orderKey_of_toInt
    {value : Value}
    {number : Int}
    (isNear : value.toInt (.integer .int64) = .ok number)
    (inRange : IntegerKind.int64.Contains number) :
    value.orderKey true = .ok (number : Rat) := by
  rw [orderKey, if_pos rfl, toInteger, isNear, Outcome.ok_bind, narrow, Integer.ofInt?,
    dif_pos inRange]
  rfl

theorem isNull_of_isNumeric {value : Value} (isNumeric : value.isNumeric = true) :
    value.isNull = false := by
  cases value with
  | null => cases isNumeric
  | _ => rfl

theorem ordering_of_isNumeric (isNumeric : left.isNumeric = true) :
    left.ordering right isWide false =
      if isWide then do
        let first ← EvalError.ofConversion (left.toInteger .int64)
        let second ← EvalError.ofConversion (right.toInteger .int64)
        return compare first.value second.value
      else do
        let first ← EvalError.ofConversion left.toDecimal
        let second ← EvalError.ofConversion right.toDecimal
        return first.order second := by
  cases left with
  | integer | float32 | float64 | decimal => rfl
  | _ => cases isNumeric

theorem compares_order (first second : Decimal) :
    (first.order second).Compares first.toRat second.toRat := by
  unfold Decimal.order
  split_ifs with isLess same
  · exact isLess
  · exact same
  · exact lt_of_le_of_ne (not_lt.mp isLess) (Ne.symm same)

theorem compares_compare_intCast (first second : Int) :
    (compare first second).Compares (first : Rat) (second : Rat) := by
  rcases lt_trichotomy first second with isLess | rfl | isMore
  · rw [compare_lt_iff_lt.mpr isLess]
    exact Int.cast_lt.mpr isLess
  · rw [compare_eq_iff_eq.mpr rfl]
    rfl
  · rw [compare_gt_iff_gt.mpr isMore]
    exact Int.cast_lt.mpr isMore

/-- Numbers are ordered as their keys. -/
theorem ordering_eq_cmp (isNumeric : left.isNumeric = true) :
    left.ordering right isWide false = (do
      let first ← EvalError.ofConversion (left.orderKey isWide)
      let second ← EvalError.ofConversion (right.orderKey isWide)
      return cmp first second) := by
  rw [ordering_of_isNumeric isNumeric]
  unfold orderKey
  cases isWide with
  | true =>
      rw [if_pos rfl, if_pos rfl, if_pos rfl]
      cases left.toInteger .int64 with
      | error => rfl
      | ok first =>
          cases right.toInteger .int64 with
          | error => rfl
          | ok second =>
              have compares := compares_compare_intCast first.value second.value
              exact congrArg Except.ok compares.cmp_eq.symm
  | false =>
      rw [if_neg Bool.false_ne_true, if_neg Bool.false_ne_true, if_neg Bool.false_ne_true]
      cases left.toDecimal with
      | error => rfl
      | ok first =>
          cases right.toDecimal with
          | error => rfl
          | ok second => exact congrArg Except.ok (compares_order first second).cmp_eq.symm

/-- The order of two numbers is that of keys that both have. -/
theorem ordering_eq_ok_iff
    (isNumeric : left.isNumeric = true)
    {order : Ordering} :
    left.ordering right isWide false = .ok order ↔
      ∃ first second, left.orderKey isWide = .ok first ∧ right.orderKey isWide = .ok second ∧
        cmp first second = order := by
  rw [ordering_eq_cmp isNumeric]
  constructor
  · intro isOrder
    obtain ⟨first, isFirst, rest⟩ := Outcome.bind_eq_ok_iff.mp isOrder
    obtain ⟨second, isSecond, same⟩ := Outcome.bind_eq_ok_iff.mp rest
    exact ⟨first, second, Outcome.mapError_eq_ok_iff.mp isFirst,
      Outcome.mapError_eq_ok_iff.mp isSecond, Except.ok.inj same⟩
  · rintro ⟨first, second, isFirst, isSecond, rfl⟩
    rw [isFirst, isSecond]
    rfl

/-- A value has a decimal, and it denotes a number. -/
structure Denotes (value : Value) (denoted : Decimal) (exact : Rat) : Prop where
  toDecimal_eq : value.toDecimal = .ok denoted
  toRat?_eq : value.toRat? = some exact

/-- A number with a key has a decimal. The key is the integer nearest to the number, or
it is the decimal. -/
theorem exists_denotes_of_orderKey
    {value : Value}
    {key : Rat}
    (isNumeric : value.isNumeric = true)
    (isKey : value.orderKey isWide = .ok key) :
    ∃ denoted exact, value.Denotes denoted exact ∧
      key = if isWide then (Rounding.nearestEven exact : Rat) else denoted.toRat := by
  unfold orderKey at isKey
  cases isWide with
  | true =>
      obtain ⟨number, isNear, rfl⟩ := Outcome.map_eq_ok_iff.mp isKey
      obtain ⟨exact, isExact, isNumber⟩ := exists_toRat?_of_toInteger isNumeric isNear
      obtain ⟨denoted, isDenoted⟩ := exists_toDecimal_of_toInteger isNumeric isNear
      exact ⟨denoted, exact, ⟨isDenoted, isExact⟩, by rw [if_pos rfl, isNumber]⟩
  | false =>
      obtain ⟨denoted, isDenoted, rfl⟩ := Outcome.map_eq_ok_iff.mp isKey
      obtain ⟨exact, isExact⟩ := exists_toRat?_of_toDecimal isNumeric isDenoted
      exact ⟨denoted, exact, ⟨isDenoted, isExact⟩, rfl⟩

theorem valuesEqual_iff
    (leftNumeric : left.isNumeric = true)
    (rightNumeric : right.isNumeric = true)
    {first second : Decimal}
    (isFirst : left.toDecimal = .ok first)
    (isSecond : right.toDecimal = .ok second) :
    left.valuesEqual right = true ↔ first.toRat = second.toRat := by
  rw [valuesEqual, leftNumeric, rightNumeric, isFirst, isSecond]
  exact first.equal_iff second

end Value

/-! ## The laws of comparison -/

namespace Expr

section Laws

variable
  (environment : Environment)
  (left right : Value)

/-- What holds of the comparisons of all numbers that can be ordered. -/
structure Consistent : Prop where
  ne_iff : Holds environment .notEqual left right ↔ ¬ Holds environment .equal left right
  swap : Holds environment .lessThan left right ↔ Holds environment .greaterThan right left
  le_iff : Holds environment .lessThanOrEqual left right ↔
    ¬ Holds environment .greaterThan left right
  ge_iff : Holds environment .greaterThanOrEqual left right ↔
    ¬ Holds environment .lessThan left right
  asymm : ¬ (Holds environment .lessThan left right ∧ Holds environment .greaterThan left right)

/-- What should hold of the comparisons of two numbers: exactly one of less, equal and
greater is true, and the others are put together from these. -/
structure Coherent : Prop where
  exactlyOne :
    (Holds environment .lessThan left right ∧ ¬ Holds environment .equal left right ∧
        ¬ Holds environment .greaterThan left right) ∨
      (¬ Holds environment .lessThan left right ∧ Holds environment .equal left right ∧
        ¬ Holds environment .greaterThan left right) ∨
      (¬ Holds environment .lessThan left right ∧ ¬ Holds environment .equal left right ∧
        Holds environment .greaterThan left right)
  le_iff : Holds environment .lessThanOrEqual left right ↔
    Holds environment .lessThan left right ∨ Holds environment .equal left right
  ge_iff : Holds environment .greaterThanOrEqual left right ↔
    Holds environment .greaterThan left right ∨ Holds environment .equal left right
  ne_iff : Holds environment .notEqual left right ↔ ¬ Holds environment .equal left right
  swap : Holds environment .lessThan left right ↔ Holds environment .greaterThan right left

/-- Two operands are ordered as two numbers. -/
structure OrderedAs (first second : Rat) : Prop where
  lt_iff : Holds environment .lessThan left right ↔ first < second
  le_iff : Holds environment .lessThanOrEqual left right ↔ first ≤ second
  gt_iff : Holds environment .greaterThan left right ↔ second < first
  ge_iff : Holds environment .greaterThanOrEqual left right ↔ second ≤ first

end Laws

section Numbers

variable
  {environment : Environment}
  {left right : Value}
  {first second : Rat}

theorem result_evaluate_of_isNumeric
    {operator : BinaryOperator}
    (isComparison : operator.isComparison = true)
    (environment : Environment)
    (isNumeric : left.isNumeric = true)
    (right : Value) :
    ((comparison operator left right).evaluate environment).result =
      (Value.compareBy operator left right (left.comparesWide right) false).map .boolean := by
  have noArithmetic : operator.isArithmetic = false := by
    cases operator with
    | add | subtract | multiply | divide | modulo => cases isComparison
    | _ => rfl
  have noDate : decide (left.staticType = .dateTime) = false := by
    cases left with
    | integer integer => cases isKind : integer.kind <;> simp [Value.staticType, isKind]
    | float32 | float64 | decimal => rfl
    | _ => cases isNumeric
  rw [result_evaluate_comparison isComparison, BinaryOperator.apply, noArithmetic, noDate]
  rfl

theorem holds_equal_iff (isNumeric : left.isNumeric = true) :
    Holds environment .equal left right ↔ left.valuesEqual right = true := by
  rw [Holds, result_evaluate_of_isNumeric rfl environment isNumeric, Value.compareBy]
  simp [Except.map]

theorem holds_notEqual_iff (isNumeric : left.isNumeric = true) :
    Holds environment .notEqual left right ↔ ¬ Holds environment .equal left right := by
  rw [holds_equal_iff isNumeric, Holds, result_evaluate_of_isNumeric rfl environment isNumeric,
    Value.compareBy]
  simp [Except.map]

/-- An order comparison is true if it is satisfied by the order of the keys. -/
theorem result_evaluate_of_orderKey
    {operator : BinaryOperator}
    (isComparison : operator.isComparison = true)
    (noEquality : operator ≠ .equal ∧ operator ≠ .notEqual)
    (leftNumeric : left.isNumeric = true)
    (rightNumeric : right.isNumeric = true)
    (isFirst : left.orderKey (left.comparesWide right) = .ok first)
    (isSecond : right.orderKey (left.comparesWide right) = .ok second) :
    ((comparison operator left right).evaluate environment).result =
      .ok (.boolean (Value.satisfies operator (cmp first second))) := by
  have isOrder : left.ordering right (left.comparesWide right) false = .ok (cmp first second) :=
    (Value.ordering_eq_ok_iff leftNumeric).mpr ⟨first, second, isFirst, isSecond, rfl⟩
  have compares : Value.compareBy operator left right (left.comparesWide right) false =
      (left.ordering right (left.comparesWide right) false).map (Value.satisfies operator) := by
    rw [Value.compareBy, Value.isNull_of_isNumeric leftNumeric,
      Value.isNull_of_isNumeric rightNumeric]
    · rfl
    · exact noEquality.1
    · exact noEquality.2
  rw [result_evaluate_of_isNumeric isComparison environment leftNumeric, compares, isOrder]
  rfl

theorem orderedAs_of_orderKey
    (environment : Environment)
    (leftNumeric : left.isNumeric = true)
    (rightNumeric : right.isNumeric = true)
    (isFirst : left.orderKey (left.comparesWide right) = .ok first)
    (isSecond : right.orderKey (left.comparesWide right) = .ok second) :
    OrderedAs environment left right first second := by
  have compares : (cmp first second).Compares first second := cmp_compares first second
  have holds_iff (operator : BinaryOperator) (isComparison : operator.isComparison = true)
      (noEquality : operator ≠ .equal ∧ operator ≠ .notEqual) :
      Holds environment operator left right ↔
        Value.satisfies operator (cmp first second) = true := by
    rw [Holds, result_evaluate_of_orderKey isComparison noEquality leftNumeric rightNumeric
      isFirst isSecond, Except.ok.injEq, Value.boolean.injEq]
  constructor
  · rw [holds_iff .lessThan rfl (by decide), ← compares.eq_lt]
    exact beq_iff_eq
  · rw [holds_iff .lessThanOrEqual rfl (by decide), ← compares.ne_gt]
    exact bne_iff_ne
  · rw [holds_iff .greaterThan rfl (by decide), ← compares.eq_gt]
    exact beq_iff_eq
  · rw [holds_iff .greaterThanOrEqual rfl (by decide), ← compares.ne_lt]
    exact bne_iff_ne

/-- Where the order comparisons can be evaluated, every comparison has a truth value. -/
theorem exists_truth_of_orderKey
    {operator : BinaryOperator}
    (isComparison : operator.isComparison = true)
    (environment : Environment)
    (leftNumeric : left.isNumeric = true)
    (rightNumeric : right.isNumeric = true)
    (isFirst : left.orderKey (left.comparesWide right) = .ok first)
    (isSecond : right.orderKey (left.comparesWide right) = .ok second) :
    ∃ truth, ((comparison operator left right).evaluate environment).result =
      .ok (.boolean truth) := by
  by_cases isEquality : operator = .equal ∨ operator = .notEqual
  · rw [result_evaluate_of_isNumeric isComparison environment leftNumeric]
    rcases isEquality with rfl | rfl
    · exact ⟨_, rfl⟩
    · exact ⟨_, rfl⟩
  · rw [not_or] at isEquality
    exact ⟨_, result_evaluate_of_orderKey isComparison isEquality leftNumeric rightNumeric
      isFirst isSecond⟩

/-- Only numbers with keys can be ordered. -/
theorem exists_orderKey_of_evaluates
    {result : Value}
    (leftNumeric : left.isNumeric = true)
    (rightNumeric : right.isNumeric = true)
    (evaluates : ((comparison .lessThan left right).evaluate environment).result = .ok result) :
    ∃ first second, left.orderKey (left.comparesWide right) = .ok first ∧
      right.orderKey (left.comparesWide right) = .ok second := by
  rw [result_evaluate_of_isNumeric rfl environment leftNumeric, Value.compareBy,
    Value.isNull_of_isNumeric leftNumeric, Value.isNull_of_isNumeric rightNumeric] at evaluates
  · obtain ⟨truth, compares, _⟩ := Outcome.map_eq_ok_iff.mp evaluates
    obtain ⟨order, isOrder, _⟩ := Outcome.map_eq_ok_iff.mp compares
    obtain ⟨first, second, isFirst, isSecond, _⟩ :=
      (Value.ordering_eq_ok_iff leftNumeric).mp isOrder
    exact ⟨first, second, isFirst, isSecond⟩
  · exact nofun
  · exact nofun

theorem consistent_of_orderedAs
    (isNumeric : left.isNumeric = true)
    (ordered : OrderedAs environment left right first second)
    (turned : OrderedAs environment right left second first) :
    Consistent environment left right where
  ne_iff := holds_notEqual_iff isNumeric
  swap := ordered.lt_iff.trans turned.gt_iff.symm
  le_iff := by rw [ordered.le_iff, ordered.gt_iff, not_lt]
  ge_iff := by rw [ordered.ge_iff, ordered.lt_iff, not_lt]
  asymm := by
    rw [ordered.lt_iff, ordered.gt_iff]
    exact fun both => lt_asymm both.1 both.2

/-- Comparisons are coherent exactly if equality agrees with the order. -/
theorem Consistent.coherent_iff
    (consistent : Consistent environment left right)
    (ordered : OrderedAs environment left right first second) :
    Coherent environment left right ↔
      (Holds environment .equal left right ↔ first = second) := by
  constructor
  · intro coherent
    have exactlyOne := coherent.exactlyOne
    rw [ordered.lt_iff, ordered.gt_iff] at exactlyOne
    rcases lt_trichotomy first second with isLess | rfl | isMore
    · grind
    · grind
    · grind
  · intro agrees
    refine ⟨?_, ?_, ?_, consistent.ne_iff, consistent.swap⟩
    · rw [ordered.lt_iff, ordered.gt_iff, agrees]
      rcases lt_trichotomy first second with isLess | rfl | isMore
      · exact .inl ⟨isLess, isLess.ne, isLess.not_gt⟩
      · exact .inr (.inl ⟨lt_irrefl _, rfl, lt_irrefl _⟩)
      · exact .inr (.inr ⟨isMore.not_gt, isMore.ne', isMore⟩)
    · rw [ordered.le_iff, ordered.lt_iff, agrees, le_iff_lt_or_eq]
    · rw [ordered.ge_iff, ordered.gt_iff, agrees, le_iff_lt_or_eq, eq_comm]

/-- Decimals of whole numbers are equal just when their nearest integers are. -/
theorem eq_iff_of_isWhole
    {firstDecimal secondDecimal : Decimal}
    {leftExact rightExact : Rat}
    (leftWhole : left.IsWhole)
    (rightWhole : right.IsWhole)
    (leftDenotes : left.Denotes firstDecimal leftExact)
    (rightDenotes : right.Denotes secondDecimal rightExact) :
    firstDecimal.toRat = secondDecimal.toRat ↔
      Rounding.nearestEven leftExact = Rounding.nearestEven rightExact := by
  have isNearest {value : Value} {denoted : Decimal} {exact : Rat} (isWhole : value.IsWhole)
      (denotes : value.Denotes denoted exact) :
      denoted.toRat = Rounding.nearestEven exact := by
    obtain ⟨number, isNumber, isDecimal⟩ := isWhole.exists_toRat?_eq denotes.toDecimal_eq
    obtain rfl := Option.some.inj (denotes.toRat?_eq.symm.trans isNumber)
    rw [isDecimal, Rounding.nearestEven_intCast]
  rw [isNearest leftWhole leftDenotes, isNearest rightWhole rightDenotes, Int.cast_inj]

/--
How two numbers compare that can be ordered.

All six comparisons then have a truth value. Not equal is the opposite of equal, at most
and at least are the opposites of greater and less, no number is both less and greater
than another one, and turning the operands round turns less into greater. Equality
compares decimals, and so does the order, or it compares the nearest integers.

Exactly one of less, equal and greater is true, with all that should follow, if and only if no
operand is statically a 64-bit integer, or decimals and nearest integers are equal alike. They are
for whole numbers.
-/
theorem coherent_iff_of_evaluates
    {result : Value}
    (leftNumeric : left.isNumeric = true)
    (rightNumeric : right.isNumeric = true)
    (evaluates : ((comparison .lessThan left right).evaluate environment).result = .ok result) :
    (∀ operator, operator.isComparison = true → ∃ truth,
      ((comparison operator left right).evaluate environment).result = .ok (.boolean truth)) ∧
    Consistent environment left right ∧
    (∃ firstDecimal secondDecimal leftExact rightExact,
      left.Denotes firstDecimal leftExact ∧ right.Denotes secondDecimal rightExact ∧
      (Holds environment .equal left right ↔ firstDecimal.toRat = secondDecimal.toRat) ∧
      OrderedAs environment left right
        (if left.comparesWide right then (Rounding.nearestEven leftExact : Rat)
          else firstDecimal.toRat)
        (if left.comparesWide right then (Rounding.nearestEven rightExact : Rat)
          else secondDecimal.toRat) ∧
      (Coherent environment left right ↔
        left.staticType ≠ .int64 ∧ right.staticType ≠ .int64 ∨
          (firstDecimal.toRat = secondDecimal.toRat ↔
            Rounding.nearestEven leftExact = Rounding.nearestEven rightExact))) ∧
    (left.IsWhole → right.IsWhole → Coherent environment left right) := by
  obtain ⟨first, second, isFirst, isSecond⟩ :=
    exists_orderKey_of_evaluates leftNumeric rightNumeric evaluates
  have ordered := orderedAs_of_orderKey environment leftNumeric rightNumeric isFirst isSecond
  have turned : OrderedAs environment right left second first := by
    rw [Value.comparesWide_comm] at isFirst isSecond
    exact orderedAs_of_orderKey environment rightNumeric leftNumeric isSecond isFirst
  have consistent := consistent_of_orderedAs leftNumeric ordered turned
  obtain ⟨firstDecimal, leftExact, leftDenotes, firstKey⟩ :=
    Value.exists_denotes_of_orderKey leftNumeric isFirst
  obtain ⟨secondDecimal, rightExact, rightDenotes, secondKey⟩ :=
    Value.exists_denotes_of_orderKey rightNumeric isSecond
  have isEqual : Holds environment .equal left right ↔
      firstDecimal.toRat = secondDecimal.toRat := by
    rw [holds_equal_iff leftNumeric, Value.valuesEqual_iff leftNumeric rightNumeric
      leftDenotes.toDecimal_eq rightDenotes.toDecimal_eq]
  have isCoherent : Coherent environment left right ↔
      left.staticType ≠ .int64 ∧ right.staticType ≠ .int64 ∨
        (firstDecimal.toRat = secondDecimal.toRat ↔
          Rounding.nearestEven leftExact = Rounding.nearestEven rightExact) := by
    rw [consistent.coherent_iff ordered, isEqual, firstKey, secondKey,
      ← Value.comparesWide_eq_false_iff]
    cases left.comparesWide right with
    | true =>
        rw [if_pos rfl, if_pos rfl, Int.cast_inj, or_iff_right nofun]
    | false =>
        rw [if_neg Bool.false_ne_true, if_neg Bool.false_ne_true]
        exact iff_of_true Iff.rfl (.inl rfl)
  exact ⟨fun operator isComparison =>
      exists_truth_of_orderKey isComparison environment leftNumeric rightNumeric isFirst isSecond,
    consistent,
    ⟨firstDecimal, secondDecimal, leftExact, rightExact, leftDenotes, rightDenotes, isEqual,
      firstKey ▸ secondKey ▸ ordered, isCoherent⟩,
    fun leftWhole rightWhole =>
      isCoherent.mpr (.inr (eq_iff_of_isWhole leftWhole rightWhole leftDenotes rightDenotes))⟩

end Numbers

/-- The 64-bit integer two. -/
def two : Value :=
  .integer ⟨.int64, 2, by decide⟩

/-- The 64-bit integer three. -/
def three : Value :=
  .integer ⟨.int64, 3, by decide⟩

/-- The decimal two and four tenths. -/
def twoAndFourTenths : Value :=
  .decimal ⟨false, 24, 1, by decide, by decide⟩

/-- The decimal two and a half. -/
def twoAndHalf : Value :=
  .decimal ⟨false, 25, 1, by decide, by decide⟩

theorem orderKey_two : two.orderKey true = .ok ((2 : Int) : Rat) :=
  Value.orderKey_of_toInt rfl (by decide)

theorem orderKey_three : three.orderKey true = .ok ((3 : Int) : Rat) :=
  Value.orderKey_of_toInt rfl (by decide)

theorem orderKey_twoAndFourTenths : twoAndFourTenths.orderKey true = .ok ((2 : Int) : Rat) := by
  refine Value.orderKey_of_toInt (congrArg Except.ok ?_) (by decide)
  decide +kernel

theorem orderKey_twoAndHalf : twoAndHalf.orderKey true = .ok ((2 : Int) : Rat) := by
  refine Value.orderKey_of_toInt (congrArg Except.ok ?_) (by decide)
  decide +kernel

/-- Three and two and a half are ordered as three and two, and they are not equal. -/
theorem coherent_three_twoAndHalf :
    three.isNumeric = true ∧ twoAndHalf.isNumeric = true ∧
      ((comparison .lessThan three twoAndHalf).evaluate fieldsOnly).result =
        .ok (.boolean false) ∧
      Coherent fieldsOnly three twoAndHalf := by
  have evaluates : ((comparison .lessThan three twoAndHalf).evaluate fieldsOnly).result =
      .ok (.boolean (Value.satisfies .lessThan (cmp ((3 : Int) : Rat) ((2 : Int) : Rat)))) :=
    result_evaluate_of_orderKey rfl (by decide) rfl rfl orderKey_three orderKey_twoAndHalf
  refine ⟨rfl, rfl, evaluates, ?_⟩
  obtain ⟨_, _, ⟨first, second, leftExact, rightExact, isLeft, isRight, _, _, isCoherent⟩, _⟩ :=
    coherent_iff_of_evaluates rfl rfl evaluates
  cases isLeft.toDecimal_eq
  cases isLeft.toRat?_eq
  cases isRight.toDecimal_eq
  cases isRight.toRat?_eq
  exact isCoherent.mpr (.inr (iff_of_false (by decide +kernel) (by decide +kernel)))

/-- Two and two and four tenths can be compared, but neither is less than the other one and
they are not equal, although each is at most and at least the other one. -/
theorem not_coherent_twoAndFourTenths :
    two.isNumeric = true ∧ twoAndFourTenths.isNumeric = true ∧
      (∀ operator, operator.isComparison = true → ∃ truth,
        ((comparison operator two twoAndFourTenths).evaluate fieldsOnly).result =
          .ok (.boolean truth)) ∧
      ¬ Holds fieldsOnly .lessThan two twoAndFourTenths ∧
      ¬ Holds fieldsOnly .equal two twoAndFourTenths ∧
      ¬ Holds fieldsOnly .greaterThan two twoAndFourTenths ∧
      Holds fieldsOnly .lessThanOrEqual two twoAndFourTenths ∧
      Holds fieldsOnly .greaterThanOrEqual two twoAndFourTenths ∧
      ¬ Coherent fieldsOnly two twoAndFourTenths := by
  have ordered : OrderedAs fieldsOnly two twoAndFourTenths ((2 : Int) : Rat) ((2 : Int) : Rat) :=
    orderedAs_of_orderKey fieldsOnly rfl rfl orderKey_two orderKey_twoAndFourTenths
  have notLess := ordered.lt_iff.not.mpr (lt_irrefl _)
  have notMore := ordered.gt_iff.not.mpr (lt_irrefl _)
  have notEqual : ¬ Holds fieldsOnly .equal two twoAndFourTenths := by
    rw [holds_equal_iff rfl, Value.valuesEqual_iff rfl rfl rfl rfl]
    decide +kernel
  refine ⟨rfl, rfl, fun operator isComparison => ?_, notLess, notEqual, notMore,
    ordered.le_iff.mpr le_rfl, ordered.ge_iff.mpr le_rfl, fun coherent => ?_⟩
  · exact exists_truth_of_orderKey isComparison fieldsOnly rfl rfl orderKey_two
      orderKey_twoAndFourTenths
  · rcases coherent.le_iff.mp (ordered.le_iff.mpr le_rfl) with isLess | isEqual
    · exact notLess isLess
    · exact notEqual isEqual

end Expr
end RowBinding
