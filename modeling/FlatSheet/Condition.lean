import FlatSheet.Reference.Resolve

/-! # Conditions

A condition compares two references with one of six operators. It compares their columns, not the
values of the cells there, so `A1 < B1` holds in every record. Blanks may stand around each part.
-/

namespace FlatSheet

/-- How two columns are compared. -/
inductive Comparison
  | equal
  | less
  | greater
  | atLeast
  | atMost
  | different
  deriving DecidableEq, Repr

namespace Comparison

/-- Every comparison once. -/
def all : List Comparison := [.equal, .less, .greater, .atLeast, .atMost, .different]

/-- The operator as written. -/
def text : Comparison → Text
  | .equal => ['=']
  | .less => ['<']
  | .greater => ['>']
  | .atLeast => ['>', '=']
  | .atMost => ['<', '=']
  | .different => ['!', '=']

/-- The comparison that an operator writes. -/
def ofText? (operator : Text) : Option Comparison :=
  all.find? fun comparison => comparison.text == operator

/-- Each comparison has an operator of its own. -/
theorem ofText?_text (comparison : Comparison) : ofText? comparison.text = some comparison := by
  cases comparison <;> rfl

/-- Whether two columns compare so. -/
def holds : Comparison → Nat → Nat → Bool
  | .equal, left, right => left == right
  | .less, left, right => left < right
  | .greater, left, right => right < left
  | .atLeast, left, right => right ≤ left
  | .atMost, left, right => left ≤ right
  | .different, left, right => left != right

end Comparison

/-- A comparison of the columns of two references. -/
structure Condition where
  left : Reference
  comparison : Comparison
  right : Reference
  deriving DecidableEq, Repr

namespace Condition

/-- The characters that operators are made of. -/
def isOperatorChar (char : Char) : Bool := char == '=' || char == '<' || char == '>' || char == '!'

/-- Splits off a letter and all digits after it, of which there must be one. -/
def spanReference? : Text → Option (Text × Text)
  | [] => none
  | letter :: rest =>
    let (digits, rest) := Text.spanDigits rest
    if letter.isAlpha && !digits.isEmpty then some (letter :: digits, rest) else none

/-- Cuts a text into the left reference, the operator and the right reference. -/
def parts? (text : Text) : Option (Text × Text × Text) := do
  let (left, rest) ← spanReference? text.trimStart
  let rest := rest.trimStart
  let operator := rest.takeWhile isOperatorChar
  let (right, rest) ← spanReference? (Text.trimStart (rest.dropWhile isOperatorChar))
  if operator.isEmpty || !rest.trimStart.isEmpty then none else some (left, operator, right)

/-- Reads a condition. Its shape and its operator are checked before the rows of its references. -/
def parse (text : Text) : Except Fault Condition :=
  match parts? text with
  | none => .error (.malformedCondition text)
  | some (left, operator, right) =>
    match Comparison.ofText? operator with
    | none => .error (.malformedCondition text)
    | some comparison => do
      let left ← Reference.resolve left
      let right ← Reference.resolve right
      return { left, comparison, right }

/-- The comparison of the two columns. -/
def holds (condition : Condition) : Bool :=
  condition.comparison.holds condition.left.column condition.right.column

/-- The references and the operator without blanks. -/
def text (condition : Condition) : Text :=
  condition.left.text ++ condition.comparison.text ++ condition.right.text

end Condition

end FlatSheet
