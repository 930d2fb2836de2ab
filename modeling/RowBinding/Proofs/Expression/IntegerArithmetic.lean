import RowBinding.Proofs.Expression.Comparison

/-!
# Arithmetic of 64-bit integers

The operators give the exact integer where it has 64 bits, and an overflow where
it has not. A quotient and a remainder by zero are refused as divisions by zero.
One remainder is refused with an overflow although it is zero: the one whose
quotient has no 64 bits.
-/

namespace RowBinding

open IntegerKind (int64)

namespace BinaryOperator

/--
The integer that an arithmetic operator stands for.

A quotient is truncated toward zero, and a remainder has the sign of the dividend. There
is none of both by zero.
-/
def integer? : BinaryOperator → Int → Int → Option Int
  | .add, first, second => some (first + second)
  | .subtract, first, second => some (first - second)
  | .multiply, first, second => some (first * second)
  | .divide, first, second => if second = 0 then none else some (first.tdiv second)
  | .modulo, first, second => if second = 0 then none else some (first.tmod second)
  | _, _, _ => none

/-- The remainder by minus one of the least integer, whose quotient is too large. -/
def RefusesRemainder (operator : BinaryOperator) (first second : Int) : Prop :=
  operator = .modulo ∧ first = int64.least ∧ second = -1

theorem integer?_eq_none_iff
    {operator : BinaryOperator}
    (isArithmetic : operator.isArithmetic = true)
    (first second : Int) :
    operator.integer? first second = none ↔
      (operator = .divide ∨ operator = .modulo) ∧ second = 0 := by
  cases operator with
  | add | subtract | multiply => simp [integer?]
  | divide | modulo => simp [integer?]
  | _ => cases isArithmetic

end BinaryOperator

/-- Only the quotient of the least integer by minus one is not a 64-bit integer. -/
theorem contains_tdiv_iff
    {first second : Int}
    (inRange : int64.Contains first)
    (nonzero : second ≠ 0) :
    int64.Contains (first.tdiv second) ↔ ¬(first = int64.least ∧ second = -1) := by
  obtain ⟨isLeast, isGreatest⟩ := inRange
  unfold IntegerKind.Contains
  simp only [IntegerKind.least, IntegerKind.greatest] at isLeast isGreatest ⊢
  rcases Nat.lt_or_ge second.natAbs 2 with isUnit | isMore
  · rcases (show second = 1 ∨ second = -1 by omega) with rfl | rfl
    · rw [Int.tdiv_one]
      omega
    · rw [Int.tdiv_neg, Int.tdiv_one]
      omega
  · -- The quotient is at most half as large as the dividend.
    have isHalf : (first.tdiv second).natAbs ≤ first.natAbs / 2 :=
      (Int.natAbs_tdiv first second).trans_le (Nat.div_le_div_left isMore two_pos)
    omega

namespace Value

variable
  {operator : BinaryOperator}
  {first second number : Int}

/-! ## Integers in range -/

theorem int64Result_of_contains (inRange : int64.Contains number) :
    int64Result operator number = .ok (.integer ⟨.int64, number, inRange⟩) := by
  rw [int64Result, Integer.ofInt?, dif_pos inRange]

theorem int64Result_of_not_contains (outside : ¬int64.Contains number) :
    int64Result operator number = .error (.arithmeticOverflow operator.sign) := by
  rw [int64Result, Integer.ofInt?, dif_neg outside]

theorem intOperand_integer (inRange : int64.Contains number) :
    (integer ⟨.int64, number, inRange⟩).intOperand = .ok number := by
  have narrows : (integer ⟨.int64, number, inRange⟩).toInteger .int64 =
      .ok ⟨.int64, number, inRange⟩ :=
    narrow_of_contains inRange
  rw [intOperand, narrows]
  rfl

/-! ## The operators on integers -/

theorem intArithmetic_modulo (nonzero : second ≠ 0) :
    intArithmetic .modulo first second =
      (int64Result .modulo (first.tdiv second)).bind fun _ =>
        int64Result .modulo (first.tmod second) :=
  if_neg nonzero

theorem intArithmetic_of_integer?_eq_none
    (isArithmetic : operator.isArithmetic = true)
    (noExact : operator.integer? first second = none) :
    intArithmetic operator first second = .error .divisionByZero := by
  obtain ⟨isDivision, isZero⟩ := (operator.integer?_eq_none_iff isArithmetic _ _).mp noExact
  rcases isDivision with rfl | rfl
  · exact if_pos isZero
  · exact if_pos isZero

/-- A remainder is worked out if its quotient is in range. -/
theorem intArithmetic_of_integer?
    (isArithmetic : operator.isArithmetic = true)
    (inRange : int64.Contains first)
    (isExact : operator.integer? first second = some number)
    (notRefused : ¬operator.RefusesRemainder first second) :
    intArithmetic operator first second = int64Result operator number := by
  cases operator with
  | add | subtract | multiply =>
      cases isExact
      rfl
  | divide =>
      rw [BinaryOperator.integer?] at isExact
      split_ifs at isExact with isZero
      cases isExact
      exact if_neg isZero
  | modulo =>
      rw [BinaryOperator.integer?] at isExact
      split_ifs at isExact with isZero
      cases isExact
      have hasQuotient : int64.Contains (first.tdiv second) :=
        (contains_tdiv_iff inRange isZero).mpr fun refused => notRefused ⟨rfl, refused⟩
      rw [intArithmetic_modulo isZero, int64Result_of_contains hasQuotient]
      rfl
  | _ => cases isArithmetic

theorem intArithmetic_of_refusesRemainder (refused : operator.RefusesRemainder first second) :
    intArithmetic operator first second = .error (.arithmeticOverflow operator.sign) := by
  obtain ⟨rfl, rfl, rfl⟩ := refused
  have noQuotient : ¬int64.Contains (int64.least.tdiv (-1)) := by decide
  rw [intArithmetic_modulo (by decide), int64Result_of_not_contains noQuotient]
  rfl

/-- All that the arithmetic of two 64-bit integers can lead to. -/
theorem intArithmetic_cases
    (isArithmetic : operator.isArithmetic = true)
    (inRange : int64.Contains first)
    (second : Int) :
    (operator.integer? first second = none ∧
        intArithmetic operator first second = .error .divisionByZero) ∨
      ∃ number, operator.integer? first second = some number ∧
        ((¬int64.Contains number ∨ operator.RefusesRemainder first second) ∧
            intArithmetic operator first second =
              .error (.arithmeticOverflow operator.sign) ∨
          ¬operator.RefusesRemainder first second ∧
            ∃ inRange, intArithmetic operator first second =
              .ok (.integer ⟨.int64, number, inRange⟩)) := by
  cases isExact : operator.integer? first second with
  | none => exact .inl ⟨rfl, intArithmetic_of_integer?_eq_none isArithmetic isExact⟩
  | some number =>
      refine .inr ⟨number, rfl, ?_⟩
      by_cases refused : operator.RefusesRemainder first second
      · exact .inl ⟨.inr refused, intArithmetic_of_refusesRemainder refused⟩
      rw [intArithmetic_of_integer? isArithmetic inRange isExact refused]
      by_cases fits : int64.Contains number
      · exact .inr ⟨refused, fits, int64Result_of_contains fits⟩
      · exact .inl ⟨.inl fits, int64Result_of_not_contains fits⟩

end Value

namespace Expr

/--
What an arithmetic operator gives for two 64-bit integers.

It gives the exact integer if there is one in range, an overflow if there is one out of
range, and a division by zero if there is none. One remainder in range is refused with an
overflow. Whatever is given is exact.
-/
structure Calculates
    (operator : BinaryOperator)
    (first second : Int)
    (outcome : Except EvalError Value) : Prop where
  eq_ok_iff : ∀ number inRange,
    outcome = .ok (.integer ⟨.int64, number, inRange⟩) ↔
      operator.integer? first second = some number ∧ ¬operator.RefusesRemainder first second
  overflow_iff :
    outcome = .error (.arithmeticOverflow operator.sign) ↔
      (∃ number, operator.integer? first second = some number ∧ ¬int64.Contains number) ∨
        operator.RefusesRemainder first second
  divisionByZero_iff :
    outcome = .error .divisionByZero ↔
      (operator = .divide ∨ operator = .modulo) ∧ second = 0
  exists_exact : ∀ value, outcome = .ok value →
    ∃ number inRange, operator.integer? first second = some number ∧
      value = .integer ⟨.int64, number, inRange⟩

theorem calculates_intArithmetic
    {operator : BinaryOperator}
    {first second : Int}
    (isArithmetic : operator.isArithmetic = true)
    (inRange : int64.Contains first) :
    Calculates operator first second (Value.intArithmetic operator first second) := by
  have isDivision := operator.integer?_eq_none_iff isArithmetic first second
  rcases Value.intArithmetic_cases isArithmetic inRange second with
    ⟨noExact, byZero⟩ | ⟨number, isExact, ⟨overflows, isError⟩ | ⟨notRefused, fits, isOk⟩⟩
  · have notRefused : ¬operator.RefusesRemainder first second := by
      rintro ⟨rfl, rfl, rfl⟩
      cases noExact
    rw [byZero]
    constructor <;> grind
  · rw [isError]
    constructor <;> grind
  · rw [isOk]
    constructor <;> grind

/-- An arithmetic operator on two constants that are 64-bit integers. -/
def calculation
    (operator : BinaryOperator)
    (first second : Int)
    (firstInRange : int64.Contains first)
    (secondInRange : int64.Contains second) : Expr :=
  .binary operator
    (.ofValue (.integer ⟨.int64, first, firstInRange⟩))
    (.ofValue (.integer ⟨.int64, second, secondInRange⟩))

theorem result_evaluate_calculation
    {operator : BinaryOperator}
    {first second : Int}
    (isArithmetic : operator.isArithmetic = true)
    (environment : Environment)
    (firstInRange : int64.Contains first)
    (secondInRange : int64.Contains second) :
    ((calculation operator first second firstInRange secondInRange).evaluate environment).result =
      Value.intArithmetic operator first second := by
  rw [calculation, result_evaluate_binary_ofValue (.inr isArithmetic), BinaryOperator.apply,
    if_pos isArithmetic, Value.arithmetic]
  simp only [Value.isString, Value.asString?, Option.isSome_none, Bool.or_self, Bool.and_false,
    Bool.false_eq_true, if_false, Value.staticType, decide_true, if_true]
  rw [Value.intOperand_integer, Value.intOperand_integer]
  rfl

/-- Every arithmetic operator is evaluated exactly on every two 64-bit integers, or refused
for a reason that lies in them. -/
theorem calculates_of_isArithmetic
    {operator : BinaryOperator}
    {first second : Int}
    (isArithmetic : operator.isArithmetic = true)
    (environment : Environment)
    (firstInRange : int64.Contains first)
    (secondInRange : int64.Contains second) :
    Calculates operator first second
      ((calculation operator first second firstInRange secondInRange).evaluate
        environment).result := by
  rw [result_evaluate_calculation isArithmetic environment firstInRange secondInRange]
  exact calculates_intArithmetic isArithmetic firstInRange

/-- Minus seven by two is minus three, and minus one is left. -/
theorem evaluate_minusSeven :
    ((calculation .divide (-7) 2 (by decide) (by decide)).evaluate fieldsOnly).result =
        .ok (.integer ⟨.int64, -3, by decide⟩) ∧
      ((calculation .modulo (-7) 2 (by decide) (by decide)).evaluate fieldsOnly).result =
        .ok (.integer ⟨.int64, -1, by decide⟩) :=
  ⟨((calculates_of_isArithmetic rfl fieldsOnly _ _).eq_ok_iff (-3) (by decide)).mpr
      ⟨by decide, nofun⟩,
    ((calculates_of_isArithmetic rfl fieldsOnly _ _).eq_ok_iff (-1) (by decide)).mpr
      ⟨by decide, fun refused => absurd refused.2.2 (by decide)⟩⟩

/-- Nothing is left of the least integer by minus one, but evaluating this overflows. -/
theorem evaluate_leastByMinusOne :
    BinaryOperator.modulo.integer? int64.least (-1) = some 0 ∧ int64.Contains 0 ∧
      ((calculation .modulo int64.least (-1) (by decide) (by decide)).evaluate
        fieldsOnly).result = .error (.arithmeticOverflow "%") := by
  refine ⟨by decide, by decide, ?_⟩
  rw [result_evaluate_calculation rfl]
  exact Value.intArithmetic_of_refusesRemainder ⟨rfl, rfl, rfl⟩

end Expr
end RowBinding
