import FlatSheet.Number.Display
import FlatSheet.Text.Cut

/-! # Results

The results of a record are the values of its cells in order. They are shown either as one list in
brackets or one to a line.
-/

namespace FlatSheet

/-- The values of the cells handled so far. -/
structure Results where
  values : Array Float
  deriving DecidableEq, Repr

namespace Results

/-- No values yet. -/
def empty : Results := { values := #[] }

/-- The number of values. -/
def size (results : Results) : Nat := results.values.size

/-- Adds the value of the next cell. -/
def push (results : Results) (value : Float) : Results := { values := results.values.push value }

/-- The text of each value. -/
def lines (results : Results) : List Text := results.values.toList.map Number.display

/-- The texts of the values between brackets. -/
def text (results : Results) : Text := '[' :: Text.join ", ".toList results.lines ++ [']']

end Results

end FlatSheet
