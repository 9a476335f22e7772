import FlatSheet.Text.Blank

/-! # Paths

The steps of a path are what stands between its slashes. Empty steps and single dots stay where
they are. The final name is the last other step, unless that leads to the parent directory, and the
extension is what follows the last dot of the final name, if something precedes that dot.
-/

namespace FlatSheet.Path

/-- What stands between the slashes. -/
def steps (path : Text) : List Text := path.splitOn '/'

/-- A step that stays in the same directory. -/
def stays (step : Text) : Bool := step.isEmpty || step == ['.']

/-- The name of the file itself. -/
def finalName? (path : Text) : Option Text :=
  match ((steps path).filter fun step => !stays step).getLast? with
  | some name => if name == ['.', '.'] then none else some name
  | none => none

/-- What follows the last dot of a name. A dot that leads the name, and no other, is no divider. -/
def extensionOfName? (name : Text) : Option Text :=
  match name.reverse.dropWhile (· != '.') with
  | [] | ['.'] => none
  | _ => some (name.reverse.takeWhile (· != '.')).reverse

/-- The extension of the final name. -/
def extension? (path : Text) : Option Text := (finalName? path).bind extensionOfName?

end FlatSheet.Path
