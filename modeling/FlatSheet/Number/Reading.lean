import FlatSheet.Number.Decimal

/-! # Reading numbers out of cells

Two readings of a text are in use. A cell that is not a formula, and the branch of a condition,
count as their leading integer, whatever follows it. An operand has to be a number as a whole. Both
round to the nearest binary64 number, and neither gives an infinity or a value that is no number.
-/

namespace FlatSheet.Number

/-- The integer at the start of a text, after blanks: a sign if there is one, then all digits that
follow it, of which there must be one. -/
def integerPrefix? (text : Text) : Option Float :=
  let (negative, rest) := Text.spanSign text.trimStart
  let digits := (Text.spanDigits rest).1
  if digits.isEmpty then none
  else Decimal.toFinite? { negative := negative, significand := digits.toNumber, exponent := 0 }

/-- The number that a whole text is, blanks at its ends aside. -/
def parse? (text : Text) : Option Float := (Decimal.ofText? text.trim).bind Decimal.toFinite?

end FlatSheet.Number
