import FlatSheet.Binary64.Arithmetic
import FlatSheet.Fault

/-! # Applying a function to numbers

A function other than the conditional one has a value for its operands and the population, the
number of cells in the record. Only the standard deviation looks at the population: it divides by
it, both for the mean and for the variance, whatever the number of operands.
-/

namespace FlatSheet.Builtin

/-- A function of two numbers refuses any other number of operands. -/
def binary (function : Builtin) (operands : List Float)
    (value : Float → Float → Except Fault Float) : Except Fault Float :=
  match operands with
  | [first, second] => value first second
  | _ => .error (.wrongCount function (.exactly 2) operands.length)

/-- The mean over the population and the mean square distance from it, as a root. -/
def deviation (operands : List Float) (population : Nat) : Float :=
  let size := Binary64.ofCount population
  let mean := Binary64.sum operands / size
  let squares := operands.map fun operand => (operand - mean) * (operand - mean)
  (Binary64.sum squares / size).sqrt

/-- The value of a function of numbers. -/
def apply (function : Builtin) (operands : List Float) (population : Nat) : Except Fault Float :=
  match function with
  | .sum => .ok (Binary64.sum operands)
  | .avg =>
    if operands.isEmpty then .error (.divisionByZero .avg)
    else .ok (Binary64.sum operands / Binary64.ofCount operands.length)
  | .stdev =>
    if operands.isEmpty || population == 0 then .error (.divisionByZero .stdev)
    else .ok (deviation operands population)
  | .max => function.binary operands fun first second => .ok (Binary64.larger first second)
  | .min => function.binary operands fun first second => .ok (Binary64.smaller first second)
  | .count => .ok (Binary64.ofCount operands.length)
  | .mod => function.binary operands fun dividend divisor =>
    if divisor == 0 then .error (.divisionByZero .mod)
    else .ok (Binary64.remainder dividend divisor)
  | .pow => function.binary operands fun base exponent => .ok (base.pow exponent)
  | .ifElse => .error (.wrongCount .ifElse .branches operands.length)

/-- The branch that a condition selects. -/
def choose (holds : Bool) (whenTrue whenFalse : Text) : Text :=
  if holds then whenTrue else whenFalse

end FlatSheet.Builtin
