import FlatSheet.Log
import FlatSheet.Settings

/-! # Options of the command line

The arguments are read from left to right. Flags set options, the first other argument names the
record file, and a later flag wins over an earlier one of its kind. Some arguments stop the reading,
and then the first of them alone decides what the run does.
-/

namespace FlatSheet.CommandLine

/-- What a known flag asks for. -/
inductive Flag
  | help
  | config
  | noConfig
  | style (style : OutputStyle)
  | anyExtension
  | verbosity (verbosity : Verbosity)
  deriving DecidableEq, Repr

/-- The spellings of the flags. -/
def flags : List (Text × Flag) :=
  [("-h".toList, .help), ("--help".toList, .help), ("-c".toList, .config),
    ("--config".toList, .config), ("--no-config".toList, .noConfig),
    ("--lines".toList, .style .lines), ("--list".toList, .style .list),
    ("--any-extension".toList, .anyExtension), ("-v".toList, .verbosity .verbose),
    ("--verbose".toList, .verbosity .verbose), ("-q".toList, .verbosity .quiet),
    ("--quiet".toList, .verbosity .quiet)]

/-- The flag that an argument is. -/
def flag? (argument : Text) : Option Flag := flags.lookup argument

/-- What the arguments say, as far as it matters. -/
structure Options where
  file? : Option Text := none
  config? : Option Text := none
  noConfig : Bool := false
  style? : Option OutputStyle := none
  anyExtension : Bool := false
  verbosity : Verbosity := .normal
  deriving DecidableEq, Repr

/-- Why the reading of the arguments stops. -/
inductive Stop
  | help
  | noOperand
  | unknownOption (argument : Text)
  | secondFile (argument : Text)
  deriving DecidableEq, Repr

namespace Options

/-- Goes on reading arguments with the options so far. -/
def readFrom (options : Options) : List Text → Except Stop Options
  | [] => .ok options
  | argument :: rest =>
    match flag? argument with
    | some .help => .error .help
    | some .config =>
      match rest with
      | [] => .error .noOperand
      | path :: rest => readFrom { options with config? := some path } rest
    | some .noConfig => readFrom { options with noConfig := true } rest
    | some (.style style) => readFrom { options with style? := some style } rest
    | some .anyExtension => readFrom { options with anyExtension := true } rest
    | some (.verbosity verbosity) => readFrom { options with verbosity := verbosity } rest
    | none =>
      if argument.head? = some '-' then .error (.unknownOption argument)
      else
        match options.file? with
        | none => readFrom { options with file? := some argument } rest
        | some _ => .error (.secondFile argument)

/-- The options that a list of arguments gives. -/
def read (arguments : List Text) : Except Stop Options := readFrom {} arguments

/-- The settings of a run after the options that override them. -/
def override (options : Options) (settings : Settings) : Settings :=
  { style := options.style?.getD settings.style
    requireExtension := settings.requireExtension && !options.anyExtension }

end Options

end FlatSheet.CommandLine
