import RowBinding.Number.Decimal

/-!
# Decimals as floats

A decimal becomes a double in steps that each round: its whole part and its
fraction become doubles, their sum is scaled up to a whole number, rounded with
a half going away from zero, and scaled down again. A whole number and a
decimal without a fraction skip these steps.

A negative zero stays negative only if it has places behind the point.
-/

namespace RowBinding

/--
A power of a double by repeated squaring from the lowest bit.

Every product is rounded, so the order of the products is part of the result.
-/
def Floating.powFrom
    {format : FloatFormat}
    (product base : Floating format)
    (exponent : Nat) : Floating format :=
  if exponent ≤ 1 then
    if exponent = 0 then product else product.mul base
  else
    let product := if exponent % 2 = 1 then product.mul base else product
    powFrom product (base.mul base) (exponent / 2)
  termination_by exponent

namespace Decimal

/-- The double nearest to a natural number. -/
def doubleOfNat (value : Nat) : Float64Value :=
  .round false value

/-- The whole number nearest to a non-negative double, a half going up. -/
def roundToWhole (float : Float64Value) : Float64Value :=
  match float.toRat? with
  | some value => .round false (Rounding.nearestAway value)
  | none => float

/-- Sum of two non-negative doubles, rounded to the nearest one. -/
def addDoubles (first second : Float64Value) : Float64Value :=
  match first.toRat?, second.toRat? with
  | some firstValue, some secondValue => .round false (firstValue + secondValue)
  | _, _ => .nan

/-- The double of a decimal, computed in the steps described above. -/
def toFloat64 (decimal : Decimal) : Float64Value :=
  let unit := tenPow decimal.scale
  let whole := doubleOfNat (decimal.mantissa / unit)
  let fraction := (doubleOfNat (decimal.mantissa % unit)).div (doubleOfNat unit)
  let magnitude :=
    if fraction.isZero then whole
    else
      let shift := Floating.powFrom (doubleOfNat 1) (doubleOfNat 10) decimal.scale
      (roundToWhole ((addDoubles whole fraction).mul shift)).div shift
  if decimal.negative && !(decimal.isZero && decimal.scale == 0) then magnitude.neg
  else magnitude

end Decimal
end RowBinding
