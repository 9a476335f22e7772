import FlatSheet.FileSystem.Basic
import FlatSheet.FileSystem.Path
import FlatSheet.Record.Pass

/-! # Documents

A document is a record and the path that it was loaded from, if any. Loading fails for the first
cause that applies: the extension of the path, a path that does not exist, a file that is too large
or cannot be read as text, and last a text without cells.
-/

namespace FlatSheet

/-- A record and where it came from. -/
structure Document where
  record : Record
  path? : Option Text
  deriving DecidableEq, Repr

/-- Why a document could not be loaded. -/
inductive LoadFault
  | wrongExtension (path : Text)
  | missing (path : Text)
  | tooLarge (path : Text) (size : Nat)
  | unreadable (cause : FileFault)
  | noRecord (fault : Fault)
  deriving DecidableEq, Repr

namespace Document

/-- The largest record that is read, in bytes. -/
def maxBytes : Nat := 16777216

/-- The extension of records is `csv` in any case. -/
def hasRecordExtension (path : Text) : Bool :=
  match Path.extension? path with
  | some extension => extension.upper == "CSV".toList
  | none => false

/-- A document of a text that came from no file. -/
def ofText (text : Text) : Except Fault Document := do
  let record ← Record.ofText text
  return { record := record, path? := none }

/-- The text of a record file. -/
def readText (files : FileSystem) (path : Text) : Except LoadFault Text :=
  match files.size path with
  | .error _ => .error (.missing path)
  | .ok size =>
    if maxBytes < size then .error (.tooLarge path size)
    else (files.read path).mapError .unreadable

/-- Loads a document, with or without a check of the extension. -/
def load (files : FileSystem) (path : Text) (checkExtension : Bool) : Except LoadFault Document :=
  if checkExtension && !hasRecordExtension path then .error (.wrongExtension path)
  else do
    let text ← readText files path
    let record ← (Record.ofText text).mapError .noRecord
    return { record := record, path? := some path }

end Document

namespace LoadFault

/-- The cause below a fault of the file system, which the user also sees on its own. -/
def cause? : LoadFault → Option Text
  | .tooLarge path size =>
    some (FileSystem.sizeRefusal path "record".toList size Document.maxBytes)
  | .unreadable cause => some cause.message
  | _ => none

/-- The message for the user. -/
def message (fault : LoadFault) : Text :=
  match fault with
  | .wrongExtension path => "Provided file is not a .csv file: ".toList ++ path
  | .missing path => "The file does not exist: ".toList ++ path
  | .noRecord fault => fault.message
  | fault => "IO error: ".toList ++ fault.cause?.getD []

end LoadFault

end FlatSheet
