/-! # Texts and their blank characters

A text is a list of characters. The blank characters are those with the Unicode property
`White_Space`; they separate cells, and they are ignored around references, operands and numbers.
Trimming removes blanks at the ends of a text and nothing else.
-/

namespace FlatSheet

/-- A text is the list of its characters. -/
abbrev Text := List Char

/-- A character is blank when it has the Unicode property `White_Space`. -/
def isBlank (char : Char) : Bool :=
  let code := char.toNat
  (9 ≤ code && code ≤ 13) || code == 0x20 || code == 0x85 || code == 0xA0 || code == 0x1680 ||
    (0x2000 ≤ code && code ≤ 0x200A) || code == 0x2028 || code == 0x2029 || code == 0x202F ||
    code == 0x205F || code == 0x3000

namespace Text

/-- Removes the blanks at the start. -/
def trimStart (text : Text) : Text := text.dropWhile isBlank

/-- Removes the blanks at the end. -/
def trimEnd (text : Text) : Text := (text.reverse.dropWhile isBlank).reverse

/-- Removes the blanks at both ends. -/
def trim (text : Text) : Text := text.trimStart.trimEnd

end Text

end FlatSheet
