import FlatSheet.Builtin.Apply
import FlatSheet.Condition
import FlatSheet.Content
import FlatSheet.Record.Basic

/-! # Evaluating the content of a cell

A formula reads the cells that its references name as numbers, in the order of the text, and the
function is applied to them. A cell that is a formula itself is no number, so the value of one
formula is never an operand of another. A conditional formula reads no cell: its condition compares
columns, and the branch that it selects has to start with an integer.
-/

namespace FlatSheet.Record

/-- The number in a cell. -/
def number (cell : Text) : Except Fault Float :=
  match Number.parse? cell with
  | some number => .ok number
  | none => .error (.notNumeric cell)

/-- The number in the cell that a reference names. -/
def valueAt (record : Record) (text : Text) : Except Fault Float := do
  let reference ← Reference.resolve text
  match record.cell? reference.column with
  | some cell => number cell
  | none => .error (.outOfBounds reference record.size)

/-- The numbers in the cells of a range. -/
def rangeValues (record : Record) (start stop : Text) : Except Fault (List Float) := do
  let first ← Reference.resolve start
  let last ← Reference.resolve stop
  if last.column < first.column || last.row < first.row then
    .error (.reversedRange start stop)
  else
    match record.slice? first.column last.column with
    | some cells => cells.mapM number
    | none => .error (.outOfBounds last record.size)

/-- The second argument of a list: a number, or else a reference. -/
def operand (record : Record) (text : Text) : Except Fault Float :=
  match Number.parse? text with
  | some number => .ok number
  | none => record.valueAt text

/-- The numbers that a function is applied to. A list has exactly two arguments, of which the first
is a reference. -/
def operands (record : Record) (function : Builtin) : Arguments → Except Fault (List Float)
  | .range start stop => record.rangeValues start stop
  | .list [first, second] => do
    let first ← record.valueAt first
    let second ← record.operand second
    return [first, second]
  | .list items => .error (.wrongCount function (.exactly 2) items.length)
  | .single reference => do
    let value ← record.valueAt reference
    return [value]

/-- The value of a conditional formula: the leading integer of the branch that it selects. -/
def conditional : List Text → Except Fault Float
  | [condition, whenTrue, whenFalse] => do
    let condition ← Condition.parse condition
    let branch := Builtin.choose condition.holds whenTrue whenFalse
    match Number.integerPrefix? branch with
    | some value => .ok value
    | none => .error (.branchNotInteger branch)
  | items => .error (.wrongCount .ifElse (.exactly 3) items.length)

/-- The value of a content. An invalid formula counts as zero. -/
def evaluate (record : Record) : Content → Except Fault Float
  | .literal value => .ok value
  | .formula function arguments =>
    match function.arity, arguments with
    | .conditional, .list items => conditional items
    | _, arguments => do
      let operands ← record.operands function arguments
      function.apply operands record.size
  | .invalid => .ok 0

end FlatSheet.Record
