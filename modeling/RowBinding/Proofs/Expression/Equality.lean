import RowBinding.Proofs.Expression.Comparison
import RowBinding.Proofs.ValueEquality

/-!
# Equality as an operator

Equality of two constants has a truth value whatever the constants are and
whatever their static types, and it is that of the values. It is symmetric and
transitive on all values, and an equivalence on those without what is not a
number and without quoted expressions.
-/

namespace RowBinding
namespace Expr

/-- A constant with the static type that it is written with. -/
structure TypedConstant where
  value : Value
  type : StaticType

/-- The constant as an expression. -/
def TypedConstant.toExpr (constant : TypedConstant) : Expr :=
  .constant constant.value constant.type

variable (environment : Environment) (left right : TypedConstant)

/-- Equality of two constants evaluates to true. -/
def EvaluatesEqual : Prop :=
  ((Expr.binary .equal left.toExpr right.toExpr).evaluate environment).result =
    .ok (.boolean true)

/-- Equality of two constants is equality of their values. -/
theorem result_evaluate_equal :
    ((Expr.binary .equal left.toExpr right.toExpr).evaluate environment).result =
      .ok (.boolean (left.value.valuesEqual right.value)) :=
  result_evaluate_binary_constant (.inl rfl) environment _ _ _ _

theorem result_evaluate_notEqual :
    ((Expr.binary .notEqual left.toExpr right.toExpr).evaluate environment).result =
      .ok (.boolean !(left.value.valuesEqual right.value)) :=
  result_evaluate_binary_constant (.inl rfl) environment _ _ _ _

theorem evaluatesEqual_iff :
    EvaluatesEqual environment left right ↔ left.value.valuesEqual right.value = true := by
  rw [EvaluatesEqual, result_evaluate_equal, Except.ok.injEq, Value.boolean.injEq]

/--
Equality is an equivalence on constants in which there is no float that is not a number
and no quoted expression.

The values may be of any variants and may hold each other to any depth, and the static
types may be any.
-/
theorem equivalence_evaluatesEqual :
    Equivalence fun left right : {constant : TypedConstant //
        constant.value.isComparable = true} =>
      EvaluatesEqual environment left.1 right.1 where
  refl constant := by
    rw [evaluatesEqual_iff, Value.valuesEqual_self_iff]
    exact constant.2
  symm isEqual := by
    rw [evaluatesEqual_iff] at isEqual ⊢
    exact Value.valuesEqual_symm isEqual
  trans isEqual isNext := by
    rw [evaluatesEqual_iff] at isEqual isNext ⊢
    exact Value.valuesEqual_trans isEqual isNext

end Expr
end RowBinding
