import FlatSheet.Builtin.Basic
import FlatSheet.Log

/-! # Messages to the user

Everything that a run tells the user besides the results is a message: the usage, an error, a
warning, the record file that is opened, or an entry of the log. A run shows its messages in order,
each with an end of a line.
-/

namespace FlatSheet.CommandLine

/-- A name and a description, the latter in a column of its own. -/
def usageRow (width : Nat) (name description : Text) : Text :=
  ' ' :: ' ' :: name ++ List.replicate (width - name.length) ' ' ++ description

/-- The lines of the usage. -/
def usage : List Text :=
  ["Usage: flatcalc [OPTIONS] <FILE>".toList,
    [],
    "Arguments:".toList,
    usageRow 26 "<FILE>".toList "Record to evaluate (.csv)".toList,
    [],
    "Options:".toList,
    usageRow 26 "-c, --config <FILE>".toList "Load settings from this TOML file".toList,
    usageRow 26 "--no-config".toList "Ignore the user config file".toList,
    usageRow 26 "--lines".toList "Print one value per line".toList,
    usageRow 26 "--list".toList "Print values as a bracketed list (default)".toList,
    usageRow 26 "--any-extension".toList "Accept files without a .csv extension".toList,
    usageRow 26 "-v, --verbose".toList "Log each cell as it is evaluated".toList,
    usageRow 26 "-q, --quiet".toList "Only log errors".toList,
    usageRow 26 "-h, --help".toList "Print help".toList,
    [],
    "Functions:".toList] ++
  Builtin.all.map fun function => usageRow 26 function.name function.description

/-- One thing that a run tells the user. -/
inductive Message
  | usage
  | error (text : Text)
  | warning (text : Text)
  | file (path : Text)
  | log (entry : LogEntry)
  deriving DecidableEq, Repr

/-- The lines joined, each with its end. -/
def renderLines (lines : List Text) : Text := lines.flatMap (· ++ ['\n'])

/-- A message as shown. -/
def Message.render : Message → Text
  | .usage => renderLines CommandLine.usage
  | .error text => renderLines ["Error: ".toList ++ text]
  | .warning text => renderLines ["Warning: ".toList ++ text]
  | .file path => renderLines ["File: ".toList ++ path]
  | .log entry => renderLines [entry.text]

end FlatSheet.CommandLine
