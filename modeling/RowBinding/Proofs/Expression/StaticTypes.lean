import RowBinding.Proofs.ConvertedTypes
import RowBinding.Proofs.Expression.Elements

/-!
# Static types of values

Scalar trees are put together from scalar constants by the operators, by
conversions and by conditionals. Where such a tree has a value, the value is of
the static type of the tree, except where an addition joins texts: the static
type of an addition is that of a number, also where its value is a text.
-/

namespace RowBinding

namespace StaticType

/-- Whether values of the type are neither composite nor of any type. -/
def isScalar : StaticType → Bool
  | .object | .array | .record | .expression => false
  | _ => true

/-- Whether the type is one of numbers. -/
def isNumeric : StaticType → Bool
  | .int16 | .int32 | .int64 | .float64 | .decimal => true
  | _ => false

end StaticType

theorem BinaryOperator.isArithmetic_or_isComparison_or_isLogical
    (operator : BinaryOperator)
    (noIndex : operator ≠ .arrayIndex) :
    operator.isArithmetic = true ∨ operator.isComparison = true ∨ operator.isLogical = true := by
  cases operator with
  | arrayIndex => exact absurd rfl noIndex
  | _ => simp [isArithmetic, isComparison, isLogical]

namespace Value

/-- The static type of a value of a scalar type that a conversion goes to. -/
theorem staticType_of_dataType?
    {value : Value}
    {type : StaticType}
    {target : DataType}
    (isScalar : type.isScalar = true)
    (isTarget : type.dataType? = some target)
    (typed : value.dataType? = some target) :
    value.staticType = type := by
  cases type <;> cases isTarget <;> cases isScalar <;> cases value <;>
    simp_all [dataType?, staticType]

theorem isNull_of_staticType
    {value : Value}
    (isScalar : value.staticType.isScalar = true) :
    value.isNull = false := by
  cases value with
  | null => cases isScalar
  | _ => rfl

theorem isString_iff (value : Value) : value.isString = true ↔ value.staticType = .string := by
  cases value with
  | integer number =>
      obtain ⟨kind, number, _⟩ := number
      cases kind <;> simp [isString, asString?, staticType]
  | _ => simp [isString, asString?, staticType]

/-- An inverse is of the type of its operand, which is no text. -/
theorem staticType_of_logicalNot
    {value inverse : Value}
    (inverts : value.logicalNot = .ok inverse) :
    inverse.staticType = value.staticType ∧ value.staticType ≠ .string := by
  cases value with
  | null | boolean truth =>
      cases inverts
      exact ⟨rfl, nofun⟩
  | integer number =>
      cases inverts
      refine ⟨rfl, ?_⟩
      obtain ⟨kind, number, _⟩ := number
      cases kind <;> exact nofun
  | _ => cases inverts

theorem staticType_of_convert
    {value result : Value}
    {type : StaticType}
    (isScalar : type.isScalar = true)
    (notNull : value.isNull = false)
    (converts : value.castTo type = .ok result) :
    result.staticType = type := by
  unfold castTo at converts
  cases isTarget : type.dataType? with
  | none => cases type <;> cases isTarget <;> cases isScalar
  | some target =>
      rw [isTarget] at converts
      simp only [notNull, Bool.false_eq_true, if_false] at converts
      have notObject : target ≠ .object := by
        rintro rfl
        cases type <;> cases isTarget
        cases isScalar
      exact staticType_of_dataType? isScalar isTarget
        (dataType?_of_convert notObject (Outcome.mapError_eq_ok_iff.mp converts))

theorem exists_integer_of_ofInt?
    {kind : IntegerKind}
    {number : Int}
    {error : EvalError}
    {result : Value}
    (isResult :
      (match Integer.ofInt? kind number with
        | some narrowed => .ok (.integer narrowed)
        | none => .error error) = Except.ok result) :
    ∃ narrowed, result = .integer narrowed ∧ narrowed.kind = kind := by
  split at isResult <;> cases isResult
  next isNarrowed => exact ⟨_, rfl, (Integer.ofInt?_eq_some_iff.mp isNarrowed).1⟩

theorem staticType_of_negateInteger
    {number : Integer}
    {negative : Value}
    (negates : negateInteger number = .ok negative) :
    negative.staticType = (Value.integer number).staticType := by
  obtain ⟨kind, number, inRange⟩ := number
  cases kind with
  | uint64 =>
      simp only [negateInteger] at negates
      split at negates <;> cases negates
      rfl
  | _ =>
      obtain ⟨narrowed, rfl, isKind⟩ := exists_integer_of_ofInt? negates
      simp only [staticType, isKind]

/-- The negative of a number is of the type of the number. -/
theorem staticType_of_negate
    {value negative : Value}
    (isNumeric : value.staticType.isNumeric = true)
    (negates : value.negate = .ok negative) :
    negative.staticType = value.staticType := by
  cases value with
  | integer number => exact staticType_of_negateInteger negates
  | float32 float | float64 float | decimal number =>
      cases negates
      rfl
  | _ => cases isNumeric

theorem isString_of_negate
    {value negative : Value}
    (isString : value.isString = true)
    (negates : value.negate = .ok negative) :
    negative.isString = true := by
  cases value <;> cases isString
  cases negates
  rfl

theorem staticType_of_int64Result
    {operator : BinaryOperator}
    {number : Int}
    {result : Value}
    (isResult : int64Result operator number = .ok result) :
    result.staticType = .int64 := by
  obtain ⟨narrowed, rfl, isKind⟩ := exists_integer_of_ofInt? isResult
  simp only [staticType, isKind]

theorem staticType_of_intArithmetic
    {operator : BinaryOperator}
    {first second : Int}
    {result : Value}
    (computes : intArithmetic operator first second = .ok result) :
    result.staticType = .int64 := by
  unfold intArithmetic at computes
  split at computes
  · exact staticType_of_int64Result computes
  · exact staticType_of_int64Result computes
  · exact staticType_of_int64Result computes
  · split at computes
    · cases computes
    · exact staticType_of_int64Result computes
  · split at computes
    · cases computes
    · obtain ⟨_, _, computes⟩ := Outcome.bind_eq_ok_iff.mp computes
      exact staticType_of_int64Result computes

theorem staticType_of_decimalArithmetic
    {operator : BinaryOperator}
    {first second : Decimal}
    {result : Value}
    (computes : decimalArithmetic operator first second = .ok result) :
    result.staticType = .decimal := by
  unfold decimalArithmetic at computes
  grind [staticType]

/-- A sum with a text is a text, and every other result is a number of its width. -/
theorem staticType_of_arithmetic
    {operator : BinaryOperator}
    {left right result : Value}
    {isWide : Bool}
    (computes : Value.arithmetic operator left right isWide = .ok result) :
    if operator = .add && (left.isString || right.isString) then result.staticType = .string
    else result.staticType = if isWide then .int64 else .decimal := by
  unfold arithmetic at computes
  split
  · next joins =>
      rw [if_pos joins] at computes
      cases computes
      rfl
  · next plain =>
      rw [if_neg plain] at computes
      cases isWide with
      | true =>
          obtain ⟨first, _, computes⟩ := Outcome.bind_eq_ok_iff.mp computes
          obtain ⟨second, _, computes⟩ := Outcome.bind_eq_ok_iff.mp computes
          exact staticType_of_intArithmetic computes
      | false =>
          obtain ⟨first, _, computes⟩ := Outcome.bind_eq_ok_iff.mp computes
          obtain ⟨second, _, computes⟩ := Outcome.bind_eq_ok_iff.mp computes
          exact staticType_of_decimalArithmetic computes

end Value

namespace Expr

/-! ## Scalar trees -/

/-- A tree over scalar constants in which every node is typed as it is built. -/
inductive IsScalarTree : Expr → Prop
  | constant
      {literal : Value}
      (isScalar : literal.staticType.isScalar = true) :
      IsScalarTree (.ofValue literal)
  | binary
      {operator : BinaryOperator}
      {left right : Expr}
      (noIndex : operator ≠ .arrayIndex)
      (isLeft : IsScalarTree left)
      (isRight : IsScalarTree right) :
      IsScalarTree (.binary operator left right)
  | not
      {operand : Expr}
      (isOperand : IsScalarTree operand) :
      IsScalarTree (.not operand)
  | negate
      {operand : Expr}
      (isNumeric : operand.staticType.isNumeric = true)
      (isOperand : IsScalarTree operand) :
      IsScalarTree (.negate operand)
  | convert
      {operand : Expr}
      {type : StaticType}
      (isScalar : type.isScalar = true)
      (isOperand : IsScalarTree operand) :
      IsScalarTree (.convert operand type)
  | conditional
      {test onTrue onFalse : Expr}
      (same : onTrue.staticType = onFalse.staticType)
      (isTest : IsScalarTree test)
      (isTrue : IsScalarTree onTrue)
      (isFalse : IsScalarTree onFalse) :
      IsScalarTree (.conditional test onTrue onFalse)

/-- The value of an expression is a text that an addition joins. -/
inductive JoinsTexts (environment : Environment) : Expr → Prop
  | add
      {left right : Expr}
      {first second : Value}
      (isFirst : (left.evaluate environment).result = .ok first)
      (isSecond : (right.evaluate environment).result = .ok second)
      (isText : first.isString = true ∨ second.isString = true) :
      JoinsTexts environment (.binary .add left right)
  | negate
      {operand : Expr}
      (type : StaticType)
      (joins : JoinsTexts environment operand) :
      JoinsTexts environment (.unary .negate operand type)
  | onTrue
      {test onTrue : Expr}
      {condition : Value}
      (onFalse : Expr)
      (isCondition : (test.evaluate environment).result = .ok condition)
      (passes : condition.truthy = .ok true)
      (joins : JoinsTexts environment onTrue) :
      JoinsTexts environment (.conditional test onTrue onFalse)
  | onFalse
      {test onFalse : Expr}
      {condition : Value}
      (onTrue : Expr)
      (isCondition : (test.evaluate environment).result = .ok condition)
      (fails : condition.truthy = .ok false)
      (joins : JoinsTexts environment onFalse) :
      JoinsTexts environment (.conditional test onTrue onFalse)

/-- Whether an addition of a tree has an operand that is statically a text. -/
def addsTexts : Expr → Bool
  | .unary _ operand _ => operand.addsTexts
  | .binary operator left right =>
      (operator = .add && (left.staticType = .string || right.staticType = .string)) ||
        left.addsTexts || right.addsTexts
  | .conditional test onTrue onFalse =>
      test.addsTexts || onTrue.addsTexts || onFalse.addsTexts
  | _ => false

/-- A value of the static type of its tree, or a joined text of a tree typed as a number. -/
inductive Typed (environment : Environment) (tree : Expr) (value : Value) : Prop
  | same
      (plain : ¬ tree.JoinsTexts environment)
      (isType : value.staticType = tree.staticType)
  | joined
      (joins : tree.JoinsTexts environment)
      (isText : value.staticType = .string)
      (isNumber : tree.staticType = .int64 ∨ tree.staticType = .decimal)

variable {environment : Environment}

theorem isScalar_operatorType
    {operator : BinaryOperator}
    (noIndex : operator ≠ .arrayIndex)
    (left right : StaticType) :
    (operatorType operator left right).isScalar = true := by
  unfold operatorType
  rw [if_neg noIndex]
  repeat' split
  all_goals rfl

theorem IsScalarTree.isScalar_staticType {tree : Expr} (isTree : tree.IsScalarTree) :
    tree.staticType.isScalar = true := by
  induction isTree with
  | constant isScalar => exact isScalar
  | binary noIndex _ _ _ _ => exact isScalar_operatorType noIndex _ _
  | not _ isScalar | negate _ _ isScalar => exact isScalar
  | convert isScalar _ _ => exact isScalar
  | conditional _ _ _ _ _ isScalar _ => exact isScalar

theorem Typed.isNull_eq_false
    {tree : Expr}
    {value : Value}
    (isTree : tree.IsScalarTree)
    (typed : Typed environment tree value) :
    value.isNull = false := by
  cases typed with
  | same _ isType => exact Value.isNull_of_staticType (isType ▸ isTree.isScalar_staticType)
  | joined _ isText _ => exact Value.isNull_of_staticType (isText ▸ rfl)

theorem typed_arithmetic
    {operator : BinaryOperator}
    {left right : Expr}
    {value : Value}
    (isArithmetic : operator.isArithmetic = true)
    (evaluates : ((Expr.binary operator left right).evaluate environment).result = .ok value) :
    Typed environment (.binary operator left right) value := by
  rw [result_evaluate_binary environment (.inr isArithmetic)] at evaluates
  obtain ⟨first, isFirst, evaluates⟩ := Outcome.bind_eq_ok_iff.mp evaluates
  obtain ⟨second, isSecond, computes⟩ := Outcome.bind_eq_ok_iff.mp evaluates
  rw [BinaryOperator.apply, if_pos isArithmetic] at computes
  have isResult := Value.staticType_of_arithmetic computes
  have isNumber : (Expr.binary operator left right).staticType =
      if left.staticType = .int64 || right.staticType = .int64 then .int64 else .decimal := by
    cases operator <;> first | rfl | cases isArithmetic
  split at isResult
  · next joins =>
      obtain ⟨isAdd, isText⟩ := Bool.and_eq_true_iff.mp joins
      obtain rfl := of_decide_eq_true isAdd
      refine .joined (.add isFirst isSecond (Bool.or_eq_true_iff.mp isText)) isResult ?_
      rw [isNumber]
      split
      · exact .inl rfl
      · exact .inr rfl
  · next plain =>
      refine .same (fun joins => plain ?_) (isResult.trans isNumber.symm)
      cases joins with
      | add isLeft isRight isText =>
          cases isFirst.symm.trans isLeft
          cases isSecond.symm.trans isRight
          simpa using isText

theorem exists_boolean_of_comparison
    {operator : BinaryOperator}
    {left right : Expr}
    {value : Value}
    (isComparison : operator.isComparison = true)
    (evaluates : ((Expr.binary operator left right).evaluate environment).result = .ok value) :
    ∃ truth, value = .boolean truth := by
  rw [result_evaluate_binary environment (.inl isComparison)] at evaluates
  obtain ⟨first, _, evaluates⟩ := Outcome.bind_eq_ok_iff.mp evaluates
  obtain ⟨second, _, compares⟩ := Outcome.bind_eq_ok_iff.mp evaluates
  have noArithmetic : operator.isArithmetic ≠ true := by
    cases operator <;> cases isComparison <;> exact nofun
  rw [BinaryOperator.apply, if_neg noArithmetic] at compares
  obtain ⟨truth, _, isTruth⟩ := Outcome.map_eq_ok_iff.mp compares
  exact ⟨truth, isTruth.symm⟩

theorem exists_boolean_of_logical
    {operator : BinaryOperator}
    {left right : Expr}
    {value : Value}
    (isLogical : operator.isLogical = true)
    (evaluates : ((Expr.binary operator left right).evaluate environment).result = .ok value) :
    ∃ truth, value = .boolean truth := by
  cases operator with
  | andAlso =>
      rw [result_evaluate_andAlso] at evaluates
      obtain ⟨first, _, evaluates⟩ := Outcome.bind_eq_ok_iff.mp evaluates
      obtain ⟨passes, _, evaluates⟩ := Outcome.bind_eq_ok_iff.mp evaluates
      cases passes with
      | true =>
          obtain ⟨second, _, evaluates⟩ := Outcome.bind_eq_ok_iff.mp evaluates
          obtain ⟨truth, _, isTruth⟩ := Outcome.bind_eq_ok_iff.mp evaluates
          exact ⟨truth, (Except.ok.inj isTruth).symm⟩
      | false => exact ⟨false, (Except.ok.inj evaluates).symm⟩
  | orElse =>
      rw [result_evaluate_orElse] at evaluates
      obtain ⟨first, _, evaluates⟩ := Outcome.bind_eq_ok_iff.mp evaluates
      obtain ⟨passes, _, evaluates⟩ := Outcome.bind_eq_ok_iff.mp evaluates
      cases passes with
      | true => exact ⟨true, (Except.ok.inj evaluates).symm⟩
      | false =>
          obtain ⟨second, _, evaluates⟩ := Outcome.bind_eq_ok_iff.mp evaluates
          obtain ⟨truth, _, isTruth⟩ := Outcome.bind_eq_ok_iff.mp evaluates
          exact ⟨truth, (Except.ok.inj isTruth).symm⟩
  | _ => cases isLogical

/-- A truth value of an operator that is no arithmetic is of the type of the operator. -/
theorem typed_boolean
    {operator : BinaryOperator}
    (decides : operator.isComparison = true ∨ operator.isLogical = true)
    (left right : Expr)
    (truth : Bool) :
    Typed environment (.binary operator left right) (.boolean truth) := by
  refine .same (fun joins => ?_) ?_
  · cases joins
    exact decides.elim nofun nofun
  · rw [staticType, operatorType, if_pos (Bool.or_eq_true_iff.mpr decides)]
    rfl

theorem typed_binary
    {operator : BinaryOperator}
    {left right : Expr}
    {value : Value}
    (noIndex : operator ≠ .arrayIndex)
    (evaluates : ((Expr.binary operator left right).evaluate environment).result = .ok value) :
    Typed environment (.binary operator left right) value := by
  rcases operator.isArithmetic_or_isComparison_or_isLogical noIndex with
    isArithmetic | isComparison | isLogical
  · exact typed_arithmetic isArithmetic evaluates
  · obtain ⟨truth, rfl⟩ := exists_boolean_of_comparison isComparison evaluates
    exact typed_boolean (.inl isComparison) left right truth
  · obtain ⟨truth, rfl⟩ := exists_boolean_of_logical isLogical evaluates
    exact typed_boolean (.inr isLogical) left right truth

theorem typed_not
    {operand : Expr}
    {value : Value}
    (typed : ∀ {inner}, (operand.evaluate environment).result = .ok inner →
      Typed environment operand inner)
    (evaluates : ((Expr.not operand).evaluate environment).result = .ok value) :
    Typed environment (.not operand) value := by
  rw [Expr.not, result_evaluate_not] at evaluates
  obtain ⟨inner, isInner, inverts⟩ := Outcome.bind_eq_ok_iff.mp evaluates
  obtain ⟨sameType, noText⟩ := Value.staticType_of_logicalNot inverts
  cases typed isInner with
  | same _ isType => exact .same nofun (sameType.trans isType)
  | joined _ isText _ => exact absurd isText noText

theorem typed_negate
    {operand : Expr}
    {value : Value}
    (isNumeric : operand.staticType.isNumeric = true)
    (typed : ∀ {inner}, (operand.evaluate environment).result = .ok inner →
      Typed environment operand inner)
    (evaluates : ((Expr.negate operand).evaluate environment).result = .ok value) :
    Typed environment (.negate operand) value := by
  rw [Expr.negate, result_evaluate_negate] at evaluates
  obtain ⟨inner, isInner, negates⟩ := Outcome.bind_eq_ok_iff.mp evaluates
  cases typed isInner with
  | same plain isType =>
      refine .same (fun joins => ?_) ?_
      · cases joins with
        | negate _ joins => exact plain joins
      · exact (Value.staticType_of_negate (isType ▸ isNumeric) negates).trans isType
  | joined joins isText isNumber =>
      have isString := Value.isString_of_negate ((Value.isString_iff inner).mpr isText) negates
      exact .joined (.negate _ joins) ((Value.isString_iff value).mp isString) isNumber

theorem typed_convert
    {operand : Expr}
    {type : StaticType}
    {value : Value}
    (isScalar : type.isScalar = true)
    (isOperand : operand.IsScalarTree)
    (typed : ∀ {inner}, (operand.evaluate environment).result = .ok inner →
      Typed environment operand inner)
    (evaluates : ((Expr.convert operand type).evaluate environment).result = .ok value) :
    Typed environment (.convert operand type) value := by
  rw [Expr.convert, result_evaluate_convert] at evaluates
  obtain ⟨inner, isInner, converts⟩ := Outcome.bind_eq_ok_iff.mp evaluates
  exact .same nofun (Value.staticType_of_convert isScalar
    ((typed isInner).isNull_eq_false isOperand) converts)

theorem typed_conditional
    {test onTrue onFalse : Expr}
    {value : Value}
    (same : onTrue.staticType = onFalse.staticType)
    (typedTrue : ∀ {inner}, (onTrue.evaluate environment).result = .ok inner →
      Typed environment onTrue inner)
    (typedFalse : ∀ {inner}, (onFalse.evaluate environment).result = .ok inner →
      Typed environment onFalse inner)
    (evaluates :
      ((Expr.conditional test onTrue onFalse).evaluate environment).result = .ok value) :
    Typed environment (.conditional test onTrue onFalse) value := by
  rw [result_evaluate_conditional] at evaluates
  obtain ⟨condition, isCondition, evaluates⟩ := Outcome.bind_eq_ok_iff.mp evaluates
  obtain ⟨passes, isPasses, evaluates⟩ := Outcome.bind_eq_ok_iff.mp evaluates
  have onlyBranch {other : Value} {takes : Bool}
      (isOther : (test.evaluate environment).result = .ok other)
      (isTaken : other.truthy = .ok takes) : takes = passes := by
    cases isCondition.symm.trans isOther
    exact Except.ok.inj (isTaken.symm.trans isPasses)
  cases passes with
  | true =>
      cases typedTrue evaluates with
      | same plain isType =>
          refine .same (fun joins => ?_) isType
          cases joins with
          | onTrue _ _ _ joins => exact plain joins
          | onFalse _ isOther fails _ => cases onlyBranch isOther fails
      | joined joins isText isNumber =>
          exact .joined (.onTrue onFalse isCondition isPasses joins) isText isNumber
  | false =>
      cases typedFalse evaluates with
      | same plain isType =>
          refine .same (fun joins => ?_) (isType.trans same.symm)
          cases joins with
          | onFalse _ _ _ joins => exact plain joins
          | onTrue _ isOther passes _ => cases onlyBranch isOther passes
      | joined joins isText isNumber =>
          refine .joined (.onFalse onTrue isCondition isPasses joins) isText ?_
          rw [staticType, same]
          exact isNumber

/-- Where a scalar tree has a value, the value is typed as the tree or is a joined text. -/
theorem typed_of_isScalarTree {tree : Expr} (isTree : tree.IsScalarTree) :
    ∀ {value}, (tree.evaluate environment).result = .ok value →
      Typed environment tree value := by
  induction isTree with
  | @constant literal isScalar =>
      intro value evaluates
      rw [ofValue, (settlesTo_constant literal literal.staticType).result_evaluate] at evaluates
      cases evaluates
      exact .same nofun rfl
  | binary noIndex _ _ _ _ => exact typed_binary noIndex
  | not _ typed => exact typed_not typed
  | negate isNumeric _ typed => exact typed_negate isNumeric typed
  | convert isScalar isOperand typed => exact typed_convert isScalar isOperand typed
  | conditional same _ _ _ _ typedTrue typedFalse =>
      exact typed_conditional same typedTrue typedFalse

/-- Where no addition has an operand that is statically a text, no addition joins texts. -/
theorem not_joinsTexts_of_addsTexts {tree : Expr} (isTree : tree.IsScalarTree) :
    tree.addsTexts = false → ¬ tree.JoinsTexts environment := by
  induction isTree with
  | constant _ => exact fun _ => nofun
  | @binary operator left right _ isLeft isRight plainLeft plainRight =>
      intro plain joins
      simp only [addsTexts, Bool.or_eq_false_iff] at plain
      obtain ⟨⟨noText, plainFirst⟩, plainSecond⟩ := plain
      have noString {operand : Expr} {value : Value} (isOperand : operand.IsScalarTree)
          (plainOperand : ¬ operand.JoinsTexts environment)
          (isValue : (operand.evaluate environment).result = .ok value)
          (isText : value.isString = true) : operand.staticType = .string := by
        cases typed_of_isScalarTree isOperand isValue with
        | same _ isType => exact isType.symm.trans ((Value.isString_iff value).mp isText)
        | joined joins _ _ => exact absurd joins plainOperand
      cases joins with
      | add isFirst isSecond isText =>
          rcases isText with isText | isText
          · simp [noString isLeft (plainLeft plainFirst) isFirst isText] at noText
          · simp [noString isRight (plainRight plainSecond) isSecond isText] at noText
  | not _ _ => exact fun _ => nofun
  | negate _ _ plainOperand =>
      intro plain joins
      cases joins with
      | negate _ joins => exact plainOperand plain joins
  | convert _ _ _ => exact fun _ => nofun
  | conditional _ _ _ _ _ plainTrue plainFalse =>
      intro plain joins
      simp only [addsTexts, Bool.or_eq_false_iff] at plain
      cases joins with
      | onTrue _ _ _ joins => exact plainTrue plain.1.2 joins
      | onFalse _ _ _ joins => exact plainFalse plain.2 joins

/--
Where a scalar tree has a value, the value is not null, and it is of the static type of the
tree exactly if it is no text that an addition joins; such a text has the type of a number.

In particular the types agree in every tree without an addition to a static text.
-/
theorem staticType_eq_iff
    {tree : Expr}
    (isTree : tree.IsScalarTree)
    (environment : Environment)
    {value : Value}
    (evaluates : (tree.evaluate environment).result = .ok value) :
    value.isNull = false ∧
      (value.staticType = tree.staticType ↔ ¬ tree.JoinsTexts environment) ∧
      (tree.JoinsTexts environment → value.staticType = .string ∧
        (tree.staticType = .int64 ∨ tree.staticType = .decimal)) ∧
      (tree.addsTexts = false → value.staticType = tree.staticType) := by
  have typed : Typed environment tree value := typed_of_isScalarTree isTree evaluates
  refine ⟨typed.isNull_eq_false isTree, ?_⟩
  cases typed with
  | same plain isType =>
      exact ⟨⟨fun _ => plain, fun _ => isType⟩, fun joins => absurd joins plain,
        fun _ => isType⟩
  | joined joins isText isNumber =>
      have differs : value.staticType ≠ tree.staticType := by
        rw [isText]
        rcases isNumber with isNumber | isNumber <;> rw [isNumber] <;> exact nofun
      exact ⟨⟨fun isType => absurd isType differs, fun plain => absurd joins plain⟩,
        fun _ => ⟨isText, isNumber⟩,
        fun plain => absurd joins (not_joinsTexts_of_addsTexts isTree plain)⟩

/-- Minus seven if zero is less than seven, and their sum otherwise, all in 64 bits. -/
def minusSevenOrSum : Expr :=
  let zero : Expr := .ofValue (.integer (.zero .int64))
  let seven : Expr := .ofValue (.integer ⟨.uint32, 7, by decide⟩)
  .conditional (.binary .lessThan zero seven) (.negate seven) (.binary .add zero seven)

theorem staticType_minusSevenOrSum :
    minusSevenOrSum.IsScalarTree ∧
      (minusSevenOrSum.evaluate fieldsOnly).result =
        .ok (.integer ⟨.int64, -7, by decide⟩) ∧
      minusSevenOrSum.addsTexts = false ∧
      (Value.integer ⟨.int64, -7, by decide⟩).staticType = minusSevenOrSum.staticType := by
  have isTree : minusSevenOrSum.IsScalarTree :=
    .conditional rfl (.binary nofun (.constant rfl) (.constant rfl))
      (.negate rfl (.constant rfl)) (.binary nofun (.constant rfl) (.constant rfl))
  have evaluates : (minusSevenOrSum.evaluate fieldsOnly).result =
      .ok (.integer ⟨.int64, -7, by decide⟩) := rfl
  have plain : minusSevenOrSum.addsTexts = false := by decide
  exact ⟨isTree, evaluates, plain,
    (staticType_eq_iff isTree fieldsOnly evaluates).2.2.2 plain⟩

/-- A text with a number joined to it. -/
def numberedText : Expr :=
  .binary .add (.ofValue (.string "a")) (.ofValue (.integer (.zero .int32)))

theorem staticType_numberedText :
    numberedText.IsScalarTree ∧
      (numberedText.evaluate fieldsOnly).result = .ok (.string "a0") ∧
      (Value.string "a0").staticType = .string ∧ numberedText.staticType = .decimal :=
  ⟨.binary nofun (.constant rfl) (.constant rfl), rfl, rfl, rfl⟩

end Expr
end RowBinding
