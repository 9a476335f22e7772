/-! # Binary64 numbers as counts of the smallest unit

Every finite binary64 number is a whole multiple of the smallest positive one, 2 to the power of
-1074. A number is therefore a sign and a natural number of units, and exact arithmetic on it needs
no fractions. The bit pattern without the sign is the place of the magnitude in increasing order;
places up to `topPlace` are finite magnitudes, `topPlace` itself is infinity, and the places above
it are not numbers.
-/

namespace FlatSheet.Binary64

/-- The bit pattern that has the sign alone, 2 to the power of 63. -/
def signBit : Nat := 0x8000000000000000

/-- The number of places that share an exponent, 2 to the power of 52. -/
def binade : Nat := 0x10000000000000

/-- The place of infinity, just above the place of the largest finite magnitude. -/
def topPlace : Nat := 2047 * binade

/-- The place of a magnitude: the bit pattern without its sign. -/
def place (number : Float) : Nat := number.toBits.toNat % signBit

/-- A number is negative when its sign bit is set, so negative zero counts as negative. -/
def isNegative (number : Float) : Bool := signBit ≤ number.toBits.toNat

/-- Neither an infinity nor what is not a number. -/
def isFinite (number : Float) : Bool := place number < topPlace

/-- An infinity of either sign. -/
def isInfinite (number : Float) : Bool := place number == topPlace

/-- What is not a number. -/
def isNaN (number : Float) : Bool := topPlace < place number

/-- The units of the magnitude at a place. In the first binade it is the place itself, and from
there on the leading bit and the fraction, doubled once for each further binade. -/
def unitsAt (place : Nat) : Nat :=
  if place < binade then place else (binade + place % binade) <<< (place / binade - 1)

/-- The magnitude of a finite number in units of 2^-1074. -/
def units (number : Float) : Nat := unitsAt (place number)

/-- The units of the number one. -/
def oneUnits : Nat := Nat.pow 2 1074

/-- The number with a given sign and place. -/
def atPlace (negative : Bool) (place : Nat) : Float :=
  Float.ofBits (UInt64.ofNat (if negative then signBit + place else place))

/-- The infinity with a given sign. -/
def infinity (negative : Bool) : Float := atPlace negative topPlace

/-- The one value that is not a number. -/
def nan : Float := Float.ofBits 0x7FF8000000000000

end FlatSheet.Binary64
