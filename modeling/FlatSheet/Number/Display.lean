import FlatSheet.Text.Digits
import FlatSheet.Binary64.Rounding

/-! # The text of a result

A finite number is rounded to a whole number of millionths, a tie going to the even one, and
written with as few decimals as that allows: none for a whole number, otherwise no zero at the end.
Zero never has a sign. The other values have fixed texts.
-/

namespace FlatSheet.Number

/-- The number of millionths in one. -/
def million : Nat := 1000000

/-- The number of millionths nearest to the magnitude of a finite number. -/
def millionths (number : Float) : Nat :=
  Binary64.nearestEven (Binary64.units number * million) Binary64.oneUnits

/-- The six decimals of a count of millionths, without the zeros at the end. -/
def decimals (count : Nat) : Text :=
  let digits := Text.ofNumber (count % million)
  let padded := List.replicate (6 - digits.length) '0' ++ digits
  (padded.reverse.dropWhile (· == '0')).reverse

/-- A count of millionths as a decimal numeral. -/
def ofMillionths (count : Nat) : Text :=
  let whole := Text.ofNumber (count / million)
  match decimals count with
  | [] => whole
  | part => whole ++ '.' :: part

/-- The text of a number as a result. -/
def display (number : Float) : Text :=
  if Binary64.isNaN number then "#NAN!".toList
  else if Binary64.isInfinite number then "#INF!".toList
  else
    let count := millionths number
    if Binary64.isNegative number && count != 0 then '-' :: ofMillionths count
    else ofMillionths count

end FlatSheet.Number
