import FlatSheet.Content
import FlatSheet.Number.Shortest
import FlatSheet.Text.Quoted

/-! # The log

A run logs that a record was loaded, what each cell holds, and a warning for each invalid formula
that counts as zero. Each entry has a severity, and the verbosity of a run says which severities it
shows. A content is logged in full, with its texts quoted and its number exact.
-/

namespace FlatSheet

namespace Content

/-- The name of a function in the log: only its first letter is a capital. -/
def loggedName (function : Builtin) : Text :=
  match function.name with
  | [] => []
  | first :: rest => first :: rest.map Char.toLower

/-- A kind of content and its fields between braces. -/
def fields (kind : Text) (parts : List (Text × Text)) : Text :=
  kind ++ " \x7b ".toList ++
    Text.join ", ".toList (parts.map fun (label, value) => label ++ ": ".toList ++ value) ++
    " \x7d".toList

/-- A content in the log. -/
def logged : Content → Text
  | .literal value => "Literal(".toList ++ Number.exactText value ++ [')']
  | .formula function (.range start stop) =>
    fields "Range".toList [("function".toList, loggedName function),
      ("start".toList, start.quoted), ("end".toList, stop.quoted)]
  | .formula function (.list items) =>
    fields "List".toList [("function".toList, loggedName function),
      ("args".toList, '[' :: Text.join ", ".toList (items.map Text.quoted) ++ [']'])]
  | .formula function (.single reference) =>
    fields "SingleRef".toList [("function".toList, loggedName function),
      ("reference".toList, reference.quoted)]
  | .invalid => "Invalid".toList

end Content

/-- How much an entry of the log matters. -/
inductive Severity
  | warning
  | information
  | detail
  deriving DecidableEq, Repr

/-- The severity as shown in front of an entry. -/
def Severity.label : Severity → Text
  | .warning => "WARN".toList
  | .information => "INFO".toList
  | .detail => "DEBUG".toList

/-- How much of the log a run shows: nothing, the warnings, or all of it. -/
inductive Verbosity
  | quiet
  | normal
  | verbose
  deriving DecidableEq, Repr

/-- Whether entries of a severity are shown. -/
def Verbosity.shows : Verbosity → Severity → Bool
  | .quiet, _ => false
  | .normal, severity => severity == .warning
  | .verbose, _ => true

/-- Something that happened during a run. -/
inductive LogEntry
  | loaded (path : Text) (size : Nat)
  | classified (index : Nat) (cell : Text) (content : Content)
  | zeroed (index : Nat) (cell : Text)
  deriving DecidableEq, Repr

namespace LogEntry

/-- Only a cell that counts as zero is a warning. -/
def severity : LogEntry → Severity
  | .loaded .. => .information
  | .classified .. => .detail
  | .zeroed .. => .warning

/-- What happened, in words. -/
def message : LogEntry → Text
  | .loaded path size =>
    "loaded ".toList ++ path ++ " (".toList ++ Text.ofNumber size ++ " cells)".toList
  | .classified index cell content =>
    "cell ".toList ++ Text.ofNumber index ++ ": ".toList ++ cell.quoted ++ " -> ".toList ++
      content.logged
  | .zeroed index cell =>
    "cell ".toList ++ Text.ofNumber index ++ " contains an invalid formula: ".toList ++ cell

/-- An entry as shown: its severity in brackets and its message. -/
def text (entry : LogEntry) : Text :=
  '[' :: entry.severity.label ++ "] ".toList ++ entry.message

end LogEntry

end FlatSheet
