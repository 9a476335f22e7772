import FlatSheet.CommandLine.Message
import FlatSheet.CommandLine.Options
import FlatSheet.Document

/-! # A run of the program

A run reads the options, resolves the settings, loads the record and evaluates it. It prints the
results of the whole record or none: whatever goes wrong on the way becomes an error message, and
then the run fails.
-/

namespace FlatSheet.CommandLine

/-- What a run leaves: the lines of the results, the messages in order and whether it succeeded. -/
structure Outcome where
  results : List Text
  messages : List Message
  succeeded : Bool
  deriving DecidableEq, Repr

namespace Outcome

/-- A failed run has no results. -/
def failure (messages : List Message) : Outcome :=
  { results := [], messages := messages, succeeded := false }

/-- The same outcome after some earlier messages. -/
def after (messages : List Message) (outcome : Outcome) : Outcome :=
  { outcome with messages := messages ++ outcome.messages }

/-- The text of the results. -/
def output (outcome : Outcome) : Text := renderLines outcome.results

/-- The text of the messages. -/
def errors (outcome : Outcome) : Text := outcome.messages.flatMap Message.render

/-- The exit code is zero when the run succeeded and one when it failed. -/
def exitCode (outcome : Outcome) : Nat := if outcome.succeeded then 0 else 1

end Outcome

/-- The outcome when the reading of the arguments stops. -/
def stopped : Stop → Outcome
  | .help => { results := [], messages := [.usage], succeeded := true }
  | .noOperand => .failure [.error "--config requires a file path".toList]
  | .unknownOption argument =>
    .failure [.error ("Unknown option: ".toList ++ argument), .usage]
  | .secondFile argument =>
    .failure [.error ("Unexpected argument: ".toList ++ argument), .usage]

/-- The lines that show results in a style. -/
def shown (style : OutputStyle) (results : Results) : List Text :=
  match style with
  | .list => [results.text]
  | .lines => results.lines

/-- The entries of a log that a verbosity shows. -/
def logMessages (verbosity : Verbosity) (entries : List LogEntry) : List Message :=
  (entries.filter fun entry => verbosity.shows entry.severity).map .log

/-- A fault of loading, followed by the cause below it where there is one. -/
def loadError (path : Text) (fault : LoadFault) : Message :=
  let cause := match fault.cause? with
    | some cause => ": ".toList ++ cause
    | none => []
  .error ("Failed to load ".toList ++ path ++ ": ".toList ++ fault.message ++ cause)

/-- Loads a record file and evaluates it under given settings. -/
def evaluateFile (files : FileSystem) (verbosity : Verbosity) (settings : Settings)
    (path : Text) : Outcome :=
  match Document.load files path settings.requireExtension with
  | .error fault => .failure [.file path, loadError path fault]
  | .ok document =>
    let pass := document.record.pass
    let messages :=
      .file path :: logMessages verbosity (.loaded path document.record.size :: pass.log)
    match pass.results with
    | .error fault =>
      .failure (messages ++ [.error ("Failed to evaluate record: ".toList ++ fault.message)])
    | .ok results =>
      { results := shown settings.style results, messages := messages, succeeded := true }

/-- A default settings file that was passed over. -/
def settingsWarning (fault : SettingsFault) : Message :=
  .warning (fault.message ++ "; using default settings".toList)

/-- Resolves the settings that the options ask for and evaluates the record file. -/
def runFile (files : FileSystem) (reader : Text → Except Text Settings) (default? : Option Text)
    (options : Options) (path : Text) : Outcome :=
  let loaded : LoadedSettings :=
    if options.noConfig then { settings := .ok {}, warning? := none }
    else Settings.resolve files reader options.config? default?
  let warnings := (loaded.warning?.map settingsWarning).toList
  match loaded.settings with
  | .error fault => .after warnings (.failure [.error fault.message])
  | .ok settings =>
    .after warnings (evaluateFile files options.verbosity (options.override settings) path)

/-- A run of the program with its arguments. -/
def run (files : FileSystem) (reader : Text → Except Text Settings) (default? : Option Text)
    (arguments : List Text) : Outcome :=
  match Options.read arguments with
  | .error stop => stopped stop
  | .ok options =>
    match options.file? with
    | none => .failure [.error "missing FILE argument".toList, .usage]
    | some path => runFile files reader default? options path

/-- The place of the default settings file under a home directory. -/
def defaultSettingsPath (home : Text) : Text := home ++ "/.config/flatcalc/config.toml".toList

end FlatSheet.CommandLine
