import FlatSheet.CommandLine.Run

/-! # The program

The program takes a view of the files that its arguments name and of the default settings file,
runs on that view, and prints what the run leaves.
-/

namespace FlatSheet.CommandLine

/-- The number of an error of the system, which some of its calls report as a negative one. -/
def errorNumber (code : UInt32) : UInt32 := min code (0 - code)

/-- The fault that an error of the system stands for. -/
def faultOf : IO.Error → FileFault
  | .noFileOrDirectory .. => .notFound
  | .inappropriateType _ code details =>
    match errorNumber code with
    | 20 => .notDirectory
    | 21 => .isDirectory
    | number => systemFault number details
  | .invalidArgument _ code details =>
    match errorNumber code with
    | 36 => .nameTooLong
    | number => systemFault number details
  | .permissionDenied _ code details => systemFault (errorNumber code) details
  | error => .other error.toString.toList
where
  systemFault (number : UInt32) (details : String) : FileFault :=
    .other (details.capitalize ++ " (os error " ++ toString number ++ ")").toList

/-- What the system answers about one path. -/
structure Found where
  path : Text
  size : Except FileFault Nat
  text : Except FileFault Text

/-- The text that bytes encode. -/
def decode (bytes : ByteArray) : Except FileFault Text :=
  match String.fromUTF8? bytes with
  | some text => .ok text.toList
  | none => .error .notText

/-- The answer to a question to the system, or the fault that it meets. -/
def ask {α : Type} (question : IO α) : IO (Except FileFault α) := do
  try
    return .ok (← question)
  catch error => return .error (faultOf error)

open System in
/-- Asks the system about a path. A file that cannot be read still has the size that its metadata
says. -/
def probe (path : Text) : IO Found := do
  let file : FilePath := ⟨String.ofList path⟩
  let metadata ← ask file.metadata
  let bytes ← ask (IO.FS.readBinFile file)
  return { path, size := metadata.map (·.byteSize.toNat), text := bytes >>= decode }

/-- The file system that answers from what was found at some paths. -/
def viewOf (found : List Found) : FileSystem where
  size path := match found.find? (·.path == path) with
    | some entry => entry.size
    | none => .error .notFound
  read path := match found.find? (·.path == path) with
    | some entry => entry.text
    | none => .error .notFound

/-- The paths that a run may ask about. -/
def pathsOf (default? : Option Text) (arguments : List Text) : List Text :=
  match Options.read arguments with
  | .ok options => options.file?.toList ++ options.config?.toList ++ default?.toList
  | .error _ => []

end FlatSheet.CommandLine

open FlatSheet CommandLine in
/-- Runs the program with its arguments and gives its exit code. -/
def main (arguments : List String) : IO UInt32 := do
  let arguments := arguments.map String.toList
  let home? ← IO.getEnv "HOME"
  let default? := home?.map fun home => defaultSettingsPath home.toList
  let found ← (pathsOf default? arguments).mapM probe
  let outcome := run (viewOf found) Settings.parse default? arguments
  IO.eprint (String.ofList outcome.errors)
  IO.print (String.ofList outcome.output)
  return UInt32.ofNat outcome.exitCode
