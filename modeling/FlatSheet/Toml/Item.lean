import FlatSheet.Text.Blank

/-! # Tables of a settings file

A table maps keys to items, each key once, in the order of the file. A table made by a header may be
filled below that header only, one made by a dotted key by further dotted keys, and one written
inline not at all; a table that exists only because a header names one inside it may still get a
header of its own.
-/

namespace FlatSheet.Toml

/-- What made a table. -/
inductive Origin
  | implied
  | dotted
  | header
  | inline
  deriving DecidableEq, Repr

/-- Of the items that TOML has, numbers, dates and arrays with elements are never settings and have
no representation. -/
inductive Item
  | text (text : Text)
  | boolean (value : Bool)
  | emptyArray
  | table (origin : Origin) (entries : List (Text × Item))

/-- The entries of a table in the order of the file. -/
abbrev Table := List (Text × Item)

namespace Table

/-- Replaces the item of a key. -/
def replace (table : Table) (key : Text) (item : Item) : Table :=
  table.map fun (other, old) => if other == key then (other, item) else (other, old)

/-- Adds an item under a dotted key. A key that has an item is refused, and so is a dotted key into
a table that dotted keys may not fill. -/
def assign (item : Item) : Table → List Text → Option Table
  | _, [] => none
  | table, [key] =>
    match table.lookup key with
    | some _ => none
    | none => some (table ++ [(key, item)])
  | table, key :: rest =>
    match table.lookup key with
    | none => do
      let inner ← assign item [] rest
      return table ++ [(key, .table .dotted inner)]
    | some (.table origin inner) =>
      if origin = .dotted || (origin = .implied && 1 < rest.length) then do
        let inner ← assign item inner rest
        return replace table key (.table origin inner)
      else none
    | some _ => none

/-- Opens the table of a header. -/
def openHeader : Table → List Text → Option Table
  | _, [] => none
  | table, [key] =>
    match table.lookup key with
    | none => some (table ++ [(key, .table .header [])])
    | some (.table .implied inner) => some (replace table key (.table .header inner))
    | some _ => none
  | table, key :: rest =>
    match table.lookup key with
    | none => do
      let inner ← openHeader [] rest
      return table ++ [(key, .table .implied inner)]
    | some (.table .inline _) => none
    | some (.table origin inner) => do
      let inner ← openHeader inner rest
      return replace table key (.table origin inner)
    | some _ => none

/-- Adds an item under a dotted key below the header with the given keys. -/
def assignBelow (item : Item) (path : List Text) : Table → List Text → Option Table
  | table, [] => assign item table path
  | table, key :: rest =>
    match table.lookup key with
    | some (.table origin inner) => do
      let inner ← assignBelow item path inner rest
      return replace table key (.table origin inner)
    | _ => none

end Table

end FlatSheet.Toml
