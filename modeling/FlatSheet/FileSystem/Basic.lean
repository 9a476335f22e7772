import FlatSheet.Text.Digits

/-! # File systems

A file system is seen through two questions about a path: how many bytes what it names holds, and
what its text is. A path exists when the first question has an answer. Nothing is ever written.
-/

namespace FlatSheet

/-- Why a path has no answer. -/
inductive FileFault
  | notFound
  | notDirectory
  | isDirectory
  | nameTooLong
  | notText
  | other (message : Text)
  deriving DecidableEq, Repr

/-- The message of the system for the user. -/
def FileFault.message : FileFault → Text
  | .notFound => "No such file or directory (os error 2)".toList
  | .notDirectory => "Not a directory (os error 20)".toList
  | .isDirectory => "Is a directory (os error 21)".toList
  | .nameTooLong => "File name too long (os error 36)".toList
  | .notText => "stream did not contain valid UTF-8".toList
  | .other message => message

/-- The answers of a file system for every path. -/
structure FileSystem where
  size : Text → Except FileFault Nat
  read : Text → Except FileFault Text

namespace FileSystem

/-- A path exists when it names something that has a size. -/
def has (files : FileSystem) (path : Text) : Bool := (files.size path).isOk

/-- The refusal to read what is larger than its kind may be. -/
def sizeRefusal (path kind : Text) (size maximum : Nat) : Text :=
  "Refusing to read ".toList ++ path ++ ": ".toList ++ kind ++ " too large (".toList ++
    Text.ofNumber size ++ " bytes, max ".toList ++ Text.ofNumber maximum ++ [')']

end FileSystem

end FlatSheet
