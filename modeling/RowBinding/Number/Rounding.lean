/-!
# Rounding to the nearest integer

Two ways to round a rational number to a nearest integer. They differ only at
a half, which goes either to the even neighbour or away from zero.
-/

namespace RowBinding
namespace Rounding

/-- The nearest integer; a half goes to the even neighbour. -/
def nearestEven (value : Rat) : Int :=
  let below := value.floor
  let excess := value - below
  if excess < 1 / 2 then below
  else if 1 / 2 < excess then below + 1
  else if below % 2 = 0 then below
  else below + 1

/-- The nearest integer; a half goes away from zero. -/
def nearestAway (value : Rat) : Int :=
  if value < 0 then -(1 / 2 - value).floor else (value + 1 / 2).floor

end Rounding
end RowBinding
