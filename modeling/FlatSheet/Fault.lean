import FlatSheet.Builtin.Basic
import FlatSheet.Reference.Basic

/-! # Why a record has no result

A fault is the cause for which a text is no record, a cell has no value or a formula is refused.
It keeps the text or the reference at fault, and its message shows that to the user.
-/

namespace FlatSheet

/-- The number of operands that a function asks for where it was given another number. -/
inductive OperandCount
  | exactly (number : Nat)
  | branches
  deriving DecidableEq, Repr

namespace OperandCount

/-- The number in words for the user. -/
def text : OperandCount → Text
  | .exactly number => Text.ofNumber number
  | .branches => "condition, true value, false value".toList

end OperandCount

/-- The cause, with what the user wrote there. -/
inductive Fault
  | noCells
  | invalidReference (text : Text)
  | unknownFunction (name : Text)
  | invalidContent (cell : Text)
  | reversedRange (start stop : Text)
  | notNumeric (cell : Text)
  | malformedCondition (text : Text)
  | branchNotInteger (branch : Text)
  | divisionByZero (function : Builtin)
  | wrongCount (function : Builtin) (expected : OperandCount) (given : Nat)
  | outOfBounds (reference : Reference) (size : Nat)
  deriving DecidableEq, Repr

namespace Fault

/-- The message for the user. -/
def message : Fault → Text
  | .noCells => "No tokens found in input".toList
  | .invalidReference text => "Invalid cell reference: ".toList ++ text
  | .unknownFunction name => "Unknown function: ".toList ++ name
  | .invalidContent cell => "Cell has invalid content: ".toList ++ cell
  | .reversedRange start stop =>
    "Column numbers should go from low to high: ".toList ++ start ++ ':' :: stop
  | .notNumeric cell => "Value is not numeric: ".toList ++ cell
  | .malformedCondition text => "IF condition wrongly specified: ".toList ++ text
  | .branchNotInteger branch => "IF branch is not an integer: ".toList ++ branch
  | .divisionByZero function => "Division by zero in ".toList ++ function.name
  | .wrongCount function expected given =>
    "Wrong number of arguments for ".toList ++ function.name ++ ": expected ".toList ++
      expected.text ++ ", got ".toList ++ Text.ofNumber given
  | .outOfBounds reference size =>
    "Reference ".toList ++ reference.text ++ " points at index ".toList ++
      Text.ofNumber reference.column ++ ", but only ".toList ++ Text.ofNumber size ++
      " cells exist".toList

end Fault

end FlatSheet
