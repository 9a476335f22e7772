import FlatSheet.Number.Reading
import FlatSheet.Reference.Resolve

/-! # What a cell holds

A cell is a number or a formula. A formula is an equals sign, the name of a function and a payload
in parentheses, and it may stand in a pair of double quotes. The payload says what the function is
applied to: a range of cells when it has a colon, otherwise a list when it has a comma, otherwise
one reference when it is two characters long. A formula without such a payload is invalid, which is
no fault: its cell counts as zero. The name is looked up only when the payload is usable.
-/

namespace FlatSheet

/-- What a function is applied to, as written. -/
inductive Arguments
  | range (start stop : Text)
  | list (items : List Text)
  | single (reference : Text)
  deriving DecidableEq, Repr

namespace Arguments

/-- The arguments that a payload spells, if it has one of the three shapes. -/
def ofPayload? (payload : Text) : Option Arguments :=
  if payload.contains ':' then
    some (.range (payload.beforeFirst ':').trim (payload.afterFirst ':').trim)
  else if payload.contains ',' then some (.list ((payload.splitOn ',').map Text.trim))
  else if payload.length = 2 then some (.single payload)
  else none

/-- The payload that spells the arguments. -/
def payload : Arguments → Text
  | .range start stop => start ++ ':' :: stop
  | .list items => Text.join [','] items
  | .single reference => reference

end Arguments

/-- A number, a function with its arguments, or a formula that has no meaning. -/
inductive Content
  | literal (value : Float)
  | formula (function : Builtin) (arguments : Arguments)
  | invalid
  deriving DecidableEq, Repr

namespace Content

/-- Takes the double quotes off a quoted formula; any other cell stays as it is. -/
def unquoted : Text → Text
  | '"' :: '=' :: rest =>
    if rest.getLast? = some '"' then '=' :: rest.dropLast else '"' :: '=' :: rest
  | cell => cell

/-- The name in a formula: `IF` when the formula starts with it, because a condition has equals
signs of its own, and otherwise the text between the last equals sign and the parenthesis. -/
def functionName : Text → Text
  | '=' :: 'I' :: 'F' :: _ => ['I', 'F']
  | cell => (Text.afterLast '=' (cell.drop 1) |>.beforeFirst '(').trim

/-- The text between the first opening and the last closing parenthesis. -/
def payload? (cell : Text) : Option Text := (cell.afterFirst '(').beforeLast? ')'

/-- What a cell without quotes around it holds, when it starts with an equals sign. -/
def ofFormula (cell : Text) : Except Fault Content :=
  match (payload? cell).bind Arguments.ofPayload? with
  | none => .ok .invalid
  | some arguments => do
    let function ← Builtin.lookup (functionName cell)
    return .formula function arguments

/-- What a cell holds. Unless it is a formula it has to start with an integer. -/
def classify (cell : Text) : Except Fault Content :=
  match unquoted cell with
  | '=' :: rest => ofFormula ('=' :: rest)
  | plain =>
    match Number.integerPrefix? plain with
    | some value => .ok (.literal value)
    | none => .error (.invalidContent cell)

/-- A formula as written without quotes. -/
def formulaText (function : Builtin) (arguments : Arguments) : Text :=
  '=' :: function.name ++ '(' :: arguments.payload ++ [')']

end Content

end FlatSheet
