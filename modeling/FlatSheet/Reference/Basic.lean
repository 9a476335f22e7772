import FlatSheet.Text.Digits

/-! # Cell references

A reference is one column letter and a row number, such as `B3`. A record is flat, so only the
column says which cell is meant: `A1` and `A7` are the same cell. The row is kept, because the rows
of a range have to be in order and because a reference is shown as it was written.
-/

namespace FlatSheet

/-- A column counted from zero and a row as written. -/
structure Reference where
  column : Nat
  row : Nat
  deriving DecidableEq, Repr

namespace Reference

/-- The number of columns that have a letter. -/
def columnCount : Nat := 26

/-- Rows are below this bound. -/
def rowBound : Nat := Nat.pow 2 64

/-- The capital letter of the column, and a question mark for a column that has none. -/
def letter (reference : Reference) : Char :=
  if reference.column < columnCount then Char.ofNat ('A'.toNat + reference.column) else '?'

/-- The letter and the row. -/
def text (reference : Reference) : Text := reference.letter :: Text.ofNumber reference.row

/-- The column of a letter in either case. -/
def columnOf (letter : Char) : Nat := letter.toUpper.toNat - 'A'.toNat

/-- Reads one letter of ASCII and a positive row below the bound, blanks around them aside. -/
def parse? (text : Text) : Option Reference :=
  match text.trim with
  | [] => none
  | letter :: digits =>
    let row := Text.toNumber digits
    let spelled := letter.isAlpha && !digits.isEmpty && digits.all Char.isDigit
    if spelled && 0 < row && row < rowBound then
      some { column := columnOf letter, row := row }
    else none

end Reference

end FlatSheet
