import FlatSheet.Text.Blank

/-! # Cutting a text into cells

Blanks and commas separate cells. A double quote opens a run that belongs to its cell whatever it
holds, so a quoted formula with commas and blanks stays one cell. The run ends with the first quote
that no backslash protects. If there is none it ends with the very last quote of the text, and if no
quote follows at all the opening quote separates like a comma. Text and runs that touch form one
cell, and a cell keeps its quotes.

`pieceLength` says how many characters at the start of a text belong together, and `scan` collects
the pieces into cells in one pass over the text.
-/

namespace FlatSheet.Tokens

/-- Outside of quotes a separator belongs to no cell. -/
def isSeparator (char : Char) : Bool := isBlank char || char == ','

/-- Counts the characters through the first quote that no backslash protects. -/
def closingQuote? (count : Nat) : Text → Option Nat
  | [] => none
  | '"' :: _ => some (count + 1)
  | '\\' :: _ :: rest => closingQuote? (count + 2) rest
  | _ :: rest => closingQuote? (count + 1) rest

/-- Counts the characters through the last quote. -/
def lastQuote? (count : Nat) (last : Option Nat) : Text → Option Nat
  | [] => last
  | char :: rest =>
    lastQuote? (count + 1) (if char == '"' then some (count + 1) else last) rest

/-- The length of a quoted run without its opening quote, if some quote ends it. -/
def runLength? (rest : Text) : Option Nat := (closingQuote? 0 rest).or (lastQuote? 0 none rest)

/-- The length of the piece of a cell at the start of a text, zero at a separator: a quoted run or
one character. -/
def pieceLength : Text → Nat
  | [] => 0
  | '"' :: rest =>
    match runLength? rest with
    | some length => length + 1
    | none => 0
  | char :: _ => if isSeparator char then 0 else 1

/-- Adds the cell under way, whose characters are in reverse, unless it is empty. -/
def closeCell (cell : Text) (cells : List Text) : List Text :=
  if cell.isEmpty then cells else cell.reverse :: cells

/-- Collects the cells of a text in reverse. The pending characters at its start belong to the cell
under way whatever they are. -/
def scan (cells : List Text) (cell : Text) (pending : Nat) : Text → List Text
  | [] => closeCell cell cells
  | char :: rest =>
    match pending with
    | pending + 1 => scan cells (char :: cell) pending rest
    | 0 =>
      match pieceLength (char :: rest) with
      | 0 => scan (closeCell cell cells) [] 0 rest
      | pending + 1 => scan cells (char :: cell) pending rest

/-- The cells of a text in order. -/
def ofText (text : Text) : List Text := (scan [] [] 0 text).reverse

end FlatSheet.Tokens
