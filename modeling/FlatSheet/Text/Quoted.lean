import FlatSheet.Text.Hidden

/-! # Quoted texts

The log shows a text between double quotes. A quote and a backslash inside it follow a backslash,
the usual controls are written as letters after a backslash, and every other character that does not
show is written by its code.
-/

namespace FlatSheet.Text

/-- The code of a character in hexadecimal, between braces after `u`. -/
def codeEscape (char : Char) : Text :=
  '\\' :: 'u' :: '\x7b' :: Nat.toDigits 16 char.toNat ++ ['\x7d']

/-- A character inside a quoted text. -/
def escaped (char : Char) : Text :=
  match char with
  | '\x00' => ['\\', '0']
  | '\t' => ['\\', 't']
  | '\r' => ['\\', 'r']
  | '\n' => ['\\', 'n']
  | '"' => ['\\', '"']
  | '\\' => ['\\', '\\']
  | char => if isHidden char then codeEscape char else [char]

/-- The text between double quotes. -/
def quoted (text : Text) : Text := '"' :: text.flatMap escaped ++ ['"']

end FlatSheet.Text
