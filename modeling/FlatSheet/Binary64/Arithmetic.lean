import FlatSheet.Binary64.Rounding

/-! # The operations of the numeric functions

Sums, means and powers use the arithmetic of binary64 itself. The larger and the smaller of two
numbers ignore an operand that is not a number, and are the second of two equal ones, so of two
zeros the sign of the second one counts. The remainder is exact: both operands are whole numbers of
units, so it is their remainder in units, with the sign of the dividend.
-/

namespace FlatSheet.Binary64

/-- Sums from left to right. The sum of nothing is negative zero, which changes no number when
something is added to it. -/
def sum (numbers : List Float) : Float := numbers.foldl (· + ·) (-0.0)

/-- The larger of two numbers. -/
def larger (first second : Float) : Float :=
  if isNaN second || second < first then first else second

/-- The smaller of two numbers. -/
def smaller (first second : Float) : Float :=
  if isNaN second || first < second then first else second

/-- What is left of the dividend after taking away the divisor as often as it fits. -/
def remainder (dividend divisor : Float) : Float :=
  if isNaN dividend || isNaN divisor || isInfinite dividend || units divisor == 0 then nan
  else if isInfinite divisor then dividend
  else atPlace (isNegative dividend) (nearestPlace (units dividend % units divisor) 1)

end FlatSheet.Binary64
