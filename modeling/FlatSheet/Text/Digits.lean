import FlatSheet.Text.Blank

/-! # Decimal digits

Natural numbers are read from and written as ASCII digits. Writing uses the fewest digits, and
reading accepts leading zeros, so reading what was written gives the number back.
-/

namespace FlatSheet.Text

/-- The number that a run of decimal digits denotes; leading zeros do not count. -/
def toNumber (digits : Text) : Nat := Nat.ofDigitChars 10 digits 0

/-- The fewest decimal digits of a number. -/
def ofNumber (number : Nat) : Text := Nat.toDigits 10 number

/-- Reading what was written gives the number back. -/
theorem toNumber_ofNumber (number : Nat) : toNumber (ofNumber number) = number :=
  Nat.ofDigitChars_toDigits (by decide) (by decide)

/-- Splits off the longest run of decimal digits at the start. -/
def spanDigits (text : Text) : Text × Text :=
  (text.takeWhile Char.isDigit, text.dropWhile Char.isDigit)

/-- Splits off one sign at the start; the first part says whether it was a minus. -/
def spanSign : Text → Bool × Text
  | '-' :: rest => (true, rest)
  | '+' :: rest => (false, rest)
  | text => (false, text)

end FlatSheet.Text
