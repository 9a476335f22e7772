import FlatSheet.Text.Digits
import FlatSheet.Binary64.Rounding

/-! # Decimal numerals

A decimal numeral is an optional sign, digits with an optional point among, before or after them,
and an optional exponent. At least one digit stands before the exponent. The numeral denotes a
whole number times a power of ten, which is rounded once to the nearest binary64 number.
-/

namespace FlatSheet

/-- The value `significand * 10 ^ exponent`, negated or not; zero keeps its sign. -/
structure Decimal where
  negative : Bool
  significand : Nat
  exponent : Int
  deriving DecidableEq, Repr

namespace Decimal

/-- An exponent is a sign and digits after `e` or `E`; where the numeral ends, it is zero. -/
def exponent? : Text → Option Int
  | [] => some 0
  | mark :: rest =>
    let (negative, rest) := Text.spanSign rest
    let (digits, rest) := Text.spanDigits rest
    if (mark == 'e' || mark == 'E') && !digits.isEmpty && rest.isEmpty then
      some (if negative then -Text.toNumber digits else Text.toNumber digits)
    else none

/-- The digits after a point, and what follows them; without a point there are none. -/
def fraction : Text → Text × Text
  | '.' :: rest => Text.spanDigits rest
  | text => ([], text)

/-- Reads a whole text as a numeral. -/
def ofText? (text : Text) : Option Decimal :=
  let (negative, rest) := Text.spanSign text
  let (whole, rest) := Text.spanDigits rest
  let (part, rest) := fraction rest
  if whole.isEmpty && part.isEmpty then none
  else (exponent? rest).map fun power =>
    { negative := negative
      significand := Text.toNumber (whole ++ part)
      exponent := power - part.length }

/-- A power of ten beyond which the significand no longer matters: the value is above the finite
range, or below half of the smallest unit. -/
def reach : Nat := 400

/-- The nearest binary64 number, infinity when the value is beyond the finite range. An exponent
out of reach decides alone, so that no huge power of ten is formed. -/
def toFloat (decimal : Decimal) : Float :=
  if decimal.significand = 0 then Binary64.atPlace decimal.negative 0
  else match decimal.exponent with
    | .ofNat power =>
      if reach < power then Binary64.infinity decimal.negative
      else Binary64.ofQuotient decimal.negative (decimal.significand * Nat.pow 10 power) 1
    | .negSucc power =>
      if reach + decimal.significand.log2 < power then Binary64.atPlace decimal.negative 0
      else Binary64.ofQuotient decimal.negative decimal.significand (Nat.pow 10 (power + 1))

/-- The nearest binary64 number, if it is finite. -/
def toFinite? (decimal : Decimal) : Option Float :=
  let number := decimal.toFloat
  if Binary64.isFinite number then some number else none

end Decimal

end FlatSheet
