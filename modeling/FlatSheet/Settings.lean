import FlatSheet.FileSystem.Basic
import FlatSheet.Toml.Document

/-! # Settings

Two settings say how results are shown and whether a record file needs its extension. They are read
from a file in TOML. A file that the user names has to be usable; the default file is optional, and
one that is not usable gives a warning and the default settings.
-/

namespace FlatSheet

/-- How results are shown: as one list or one to a line. -/
inductive OutputStyle
  | list
  | lines
  deriving DecidableEq, Repr

/-- The name of a style in a settings file. -/
def OutputStyle.name : OutputStyle → Text
  | .list => "list".toList
  | .lines => "lines".toList

/-- The style with a name. -/
def OutputStyle.named? (name : Text) : Option OutputStyle :=
  [OutputStyle.list, .lines].find? fun style => style.name == name

/-- The two settings and their defaults. -/
structure Settings where
  style : OutputStyle := .list
  requireExtension : Bool := true
  deriving DecidableEq, Repr

namespace Settings

/-- A style is given by its name, or by a table with its name as the only key and nothing below. -/
def styleOf? : Toml.Item → Option OutputStyle
  | .text name => OutputStyle.named? name
  | .table _ [(name, .emptyArray)] => OutputStyle.named? name
  | .table _ [(name, .table _ [])] => OutputStyle.named? name
  | _ => none

/-- Changes the setting of a key. A key without a setting is refused. -/
def set? (settings : Settings) (key : Text) (item : Toml.Item) : Option Settings :=
  if key == "output".toList then
    (styleOf? item).map fun style => { settings with style := style }
  else if key == "require_csv_extension".toList then
    match item with
    | .boolean required => some { settings with requireExtension := required }
    | _ => none
  else none

/-- The settings in a file; those that it leaves out have their defaults. -/
def ofToml? (text : Text) : Option Settings := do
  let table ← Toml.parse? text
  table.foldlM (fun settings (key, item) => set? settings key item) {}

/-- Reads the text of a settings file, or gives the report of a file that is refused. -/
def parse (text : Text) : Except Text Settings :=
  match ofToml? text with
  | some settings => .ok settings
  | none => .error "TOML parse error".toList

/-- The largest settings file that is read, in bytes. -/
def maxBytes : Nat := 1048576

end Settings

/-- Why a settings file could not be used. -/
inductive SettingsFault
  | noSize (path : Text) (cause : FileFault)
  | tooLarge (path : Text) (size : Nat)
  | unreadable (path : Text) (cause : FileFault)
  | refused (path report : Text)
  deriving DecidableEq, Repr

namespace SettingsFault

/-- The message for the user. -/
def message : SettingsFault → Text
  | .noSize path cause =>
    "Failed to read metadata for ".toList ++ path ++ ": ".toList ++ cause.message
  | .tooLarge path size => FileSystem.sizeRefusal path "file".toList size Settings.maxBytes
  | .unreadable path cause => "Failed to read ".toList ++ path ++ ": ".toList ++ cause.message
  | .refused path report => "Failed to parse ".toList ++ path ++ ": ".toList ++ report

end SettingsFault

/-- The settings of a run and the fault of a default file that was passed over. -/
structure LoadedSettings where
  settings : Except SettingsFault Settings
  warning? : Option SettingsFault

namespace Settings

/-- Reads a settings file with a given reader of its text. -/
def load (files : FileSystem) (reader : Text → Except Text Settings) (path : Text) :
    Except SettingsFault Settings :=
  match files.size path with
  | .error cause => .error (.noSize path cause)
  | .ok size =>
    if maxBytes < size then .error (.tooLarge path size)
    else
      match files.read path with
      | .error cause => .error (.unreadable path cause)
      | .ok text => (reader text).mapError (.refused path)

/-- The settings of the file that the user names, or else of the default file if there is one. -/
def resolve (files : FileSystem) (reader : Text → Except Text Settings) (named? : Option Text)
    (default? : Option Text) : LoadedSettings :=
  match named?, default? with
  | some path, _ => { settings := load files reader path, warning? := none }
  | none, none => { settings := .ok {}, warning? := none }
  | none, some path =>
    if files.has path then
      match load files reader path with
      | .ok settings => { settings := .ok settings, warning? := none }
      | .error fault => { settings := .ok {}, warning? := some fault }
    else { settings := .ok {}, warning? := none }

end Settings

end FlatSheet
