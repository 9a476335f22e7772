import FlatSheet.Text.Digits
import FlatSheet.Binary64.Basic

/-! # The shortest text that reads back

The log writes a number with the fewest digits that are read back as the same number. The numbers
that round to a given one form an interval around it, whose ends belong to it when its significand
is even. The coarsest decimal grid with a point in that interval decides how many digits there are;
of two such points the nearer one is taken, and of two equally near ones the larger.
-/

namespace FlatSheet.Number

/-- The number of decimals of the finest grid, enough for every binary64 number. -/
def finestDecimals : Nat := 340

/-- The multiple of a power of ten, in units of the finest grid, that rounds to the magnitude at a
place, if there is one. -/
def gridPoint? (place power : Nat) : Option Nat :=
  let units := Binary64.unitsAt place
  let lowest := (Binary64.unitsAt (place - 1) + units) * Nat.pow 10 finestDecimals
  let middle := 2 * units * Nat.pow 10 finestDecimals
  let highest := (units + Binary64.unitsAt (place + 1)) * Nat.pow 10 finestDecimals
  let step := 2 * Binary64.oneUnits * Nat.pow 10 power
  let below := middle / step
  let roundsHere (point : Nat) : Bool :=
    if place % 2 == 0 then lowest ≤ point && point ≤ highest
    else lowest < point && point < highest
  match roundsHere (below * step), roundsHere ((below + 1) * step) with
  | true, true =>
    some (if middle - below * step < (below + 1) * step - middle then below else below + 1)
  | true, false => some below
  | false, true => some (below + 1)
  | false, false => none

/-- The point on the coarsest grid not above a power, and the power of that grid. -/
def coarsestPoint (place : Nat) : Nat → Nat × Nat
  | 0 => ((gridPoint? place 0).getD 0, 0)
  | power + 1 =>
    match gridPoint? place (power + 1) with
    | some point => (point, power + 1)
    | none => coarsestPoint place power

/-- The digits of a magnitude other than zero, and the power of ten of the first digit. -/
def shortestDigits (place : Nat) : Text × Int :=
  let (point, power) := coarsestPoint place (finestDecimals + 309)
  let digits := Text.ofNumber point
  (digits, (power : Int) - finestDecimals + (digits.length - 1 : Nat))

/-- Positional notation: zeros fill the places up to the point, and one decimal is the least. -/
def positional (digits : Text) : Int → Text
  | .ofNat power =>
    let whole := digits.take (power + 1)
    let part := digits.drop (power + 1)
    whole ++ List.replicate (power + 1 - whole.length) '0' ++ '.' ::
      (if part.isEmpty then ['0'] else part)
  | .negSucc power => '0' :: '.' :: List.replicate power '0' ++ digits

/-- Scientific notation: a point after the first of several digits, then the power of ten. -/
def scientific (digits : Text) (power : Int) : Text :=
  let significand := match digits with
    | first :: second :: rest => first :: '.' :: second :: rest
    | digits => digits
  let exponent := match power with
    | .ofNat power => Text.ofNumber power
    | .negSucc power => '-' :: Text.ofNumber (power + 1)
  significand ++ 'e' :: exponent

/-- The text of a number in the log. Notation is positional from 10^-4 up to 10^16. -/
def exactText (number : Float) : Text :=
  if Binary64.isNaN number then "NaN".toList
  else
    let place := Binary64.place number
    let magnitude :=
      if Binary64.isInfinite number then "inf".toList
      else if place == 0 then "0.0".toList
      else
        let (digits, power) := shortestDigits place
        if -4 ≤ power && power < 16 then positional digits power else scientific digits power
    if Binary64.isNegative number then '-' :: magnitude else magnitude

end FlatSheet.Number
