import FlatSheet.Fault
import FlatSheet.Record.Tokens

/-! # Records

A record is a sequence of cells, kept as written. It is both what is evaluated and what references
read from: column `A` is the first cell, `B` the second and so on.
-/

namespace FlatSheet

/-- The cells of a record in order. -/
structure Record where
  cells : Array Text
  deriving DecidableEq, Repr

namespace Record

/-- The record of given cells, whatever they hold. -/
def ofCells (cells : List Text) : Record := { cells := cells.toArray }

/-- The record that a text spells. A text without any cell is no record. -/
def ofText (text : Text) : Except Fault Record :=
  match Tokens.ofText text with
  | [] => .error .noCells
  | cells => .ok (ofCells cells)

/-- The number of cells. -/
def size (record : Record) : Nat := record.cells.size

/-- The cell at an index. -/
def cell? (record : Record) (index : Nat) : Option Text := record.cells[index]?

/-- The cells from one index to another, both included. The start may be one past the end, which
gives no cells, and the end has to be inside the record. -/
def slice? (record : Record) (start stop : Nat) : Option (List Text) :=
  if start ≤ stop + 1 && stop < record.size then
    some (record.cells.extract start (stop + 1)).toList
  else none

end Record

end FlatSheet
