import FlatSheet.Text.Blank

/-! # Cutting a text at a mark

A formula is taken apart at single characters: its name ends at the first opening parenthesis, its
payload at the last closing one, a range at its first colon. Each cut below names the side that it
keeps. Cutting at every mark is `List.splitOn`, and joining is `List.intercalate`.
-/

namespace FlatSheet.Text

/-- The characters before the first mark, or the whole text. -/
def beforeFirst (mark : Char) (text : Text) : Text := text.takeWhile (· != mark)

/-- The characters after the first mark, or none. -/
def afterFirst (mark : Char) (text : Text) : Text := (text.dropWhile (· != mark)).drop 1

/-- The characters before the last mark, if the mark occurs. -/
def beforeLast? (mark : Char) (text : Text) : Option Text :=
  match text.reverse.dropWhile (· != mark) with
  | [] => none
  | _ :: before => some before.reverse

/-- The characters after the last mark, or the whole text. -/
def afterLast (mark : Char) (text : Text) : Text :=
  (text.reverse.takeWhile (· != mark)).reverse

/-- Joins the parts, with the separator between neighbours. -/
def join (separator : Text) (parts : List Text) : Text := separator.intercalate parts

/-- A small letter of ASCII becomes its capital; every other character stays. -/
def upper (text : Text) : Text := text.map Char.toUpper

end FlatSheet.Text
