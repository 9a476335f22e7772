import FlatSheet.Toml.Item
import FlatSheet.Toml.Lexeme

/-! # Reading a settings file

A settings file is a sequence of lines: empty ones, headers that open a table, and assignments to
the table that is open. Reading gives the table at the root, or nothing when some line is refused.
-/

namespace FlatSheet.Toml

mutual

/-- The item at the start of a text. Each level of nesting takes a character, so one more than the
length of the text is a bound that is never reached. -/
def itemWithin : Nat → Text → Option (Item × Text)
  | 0, _ => none
  | bound + 1, text =>
    match text with
    | 't' :: 'r' :: 'u' :: 'e' :: rest => some (.boolean true, rest)
    | 'f' :: 'a' :: 'l' :: 's' :: 'e' :: rest => some (.boolean false, rest)
    | '[' :: rest =>
      match skipFiller false rest with
      | ']' :: rest => some (.emptyArray, rest)
      | _ => none
    | '{' :: rest =>
      match skipSpaces rest with
      | '}' :: rest => some (.table .inline [], rest)
      | _ => entriesWithin bound [] rest
    | text => (string? text).map fun (read, rest) => (.text read, rest)

/-- The assignments of a table in braces, with commas between them. -/
def entriesWithin : Nat → Table → Text → Option (Item × Text)
  | 0, _, _ => none
  | bound + 1, table, text => do
    let (path, rest) ← keyPathWithin (bound + 1) text
    match rest with
    | '=' :: rest =>
      let (item, rest) ← itemWithin bound (skipSpaces rest)
      let table ← table.assign item path
      match skipSpaces rest with
      | ',' :: rest => entriesWithin bound table rest
      | '}' :: rest => return (.table .inline table, rest)
      | _ => none
    | _ => none

end

/-- The root table and the keys of the header whose table is open. -/
structure Reading where
  root : Table
  header : List Text

/-- Reads one line that is not empty. The length of the text is a sufficient bound. -/
def readLine (bound : Nat) (reading : Reading) : Text → Option (Reading × Text)
  | '[' :: rest => do
    let (path, rest) ← keyPathWithin bound rest
    match rest with
    | ']' :: rest =>
      let rest ← lineEnd? rest
      let root ← reading.root.openHeader path
      return ({ root := root, header := path }, rest)
    | _ => none
  | text => do
    let (path, rest) ← keyPathWithin bound text
    match rest with
    | '=' :: rest =>
      let (item, rest) ← itemWithin bound (skipSpaces rest)
      let rest ← lineEnd? rest
      let root ← reading.root.assignBelow item path reading.header
      return ({ reading with root := root }, rest)
    | _ => none

/-- Reads all lines. Each takes a character, so the length of the text bounds their number. -/
def readLines : Nat → Reading → Text → Option Table
  | _, reading, [] => some reading.root
  | 0, _, _ => none
  | bound + 1, reading, text =>
    match lineEnd? text with
    | some rest => readLines bound reading rest
    | none => do
      let (reading, rest) ← readLine (bound + 1) reading (skipSpaces text)
      readLines bound reading rest

/-- The mark that may stand at the start of a file in UTF-8. -/
def byteOrderMark : Char := '\uFEFF'

/-- The table of a whole file. -/
def parse? (text : Text) : Option Table :=
  let text := match text with
    | char :: rest => if char == byteOrderMark then rest else text
    | [] => text
  readLines text.length { root := [], header := [] } text

end FlatSheet.Toml
