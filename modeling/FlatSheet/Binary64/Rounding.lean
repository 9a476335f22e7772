import FlatSheet.Binary64.Basic

/-! # Rounding a quotient to binary64

A quotient of natural numbers is rounded once, to the nearest representable magnitude, a tie going
to the even significand. At and above the midpoint between the largest finite magnitude and the
next power of two the result is infinity.
-/

namespace FlatSheet.Binary64

/-- The whole number nearest to a quotient, a tie going to the even one. -/
def nearestEven (numerator denominator : Nat) : Nat :=
  let quotient := numerator / denominator
  let remainder := numerator % denominator
  if 2 * remainder < denominator then quotient
  else if denominator < 2 * remainder then quotient + 1
  else quotient + quotient % 2

/-- The place nearest to a quotient of units. A magnitude of at most 53 binary digits lies where
neighbours differ by one unit; above it the gap doubles with every further digit, and the place
rises by a binade with every doubling. -/
def nearestPlace (numerator denominator : Nat) : Nat :=
  let doublings := (numerator / denominator).log2 - 52
  min topPlace (doublings * binade + nearestEven numerator (denominator <<< doublings))

/-- The binary64 number nearest to a quotient, with the sign given. -/
def ofQuotient (negative : Bool) (numerator denominator : Nat) : Float :=
  atPlace negative (nearestPlace (numerator * oneUnits) denominator)

/-- The binary64 number nearest to a count. -/
def ofCount (count : Nat) : Float := ofQuotient false count 1

end FlatSheet.Binary64
