import FlatSheet.Text.Cut

/-! # The lexemes of a settings file

A settings file is written in TOML. This module reads what its lines are made of: blanks, comments,
ends of lines, bare and quoted keys, and the four forms of strings. A reader takes the text from
where the lexeme starts and gives the lexeme with the text after it, or nothing when the text is
refused.
-/

namespace FlatSheet.Toml

/-- Only spaces and tabs may stand between the lexemes of a line. -/
def isSpace (char : Char) : Bool := char == ' ' || char == '\t'

/-- Skips spaces and tabs. -/
def skipSpaces (text : Text) : Text := text.dropWhile isSpace

/-- Comments and strings hold tabs and all characters but the controls of ASCII. -/
def isPlain (char : Char) : Bool := char == '\t' || (0x20 ≤ char.toNat && char.toNat != 0x7F)

/-- Skips the end of a line. -/
def newline? : Text → Option Text
  | '\n' :: rest => some rest
  | '\r' :: '\n' :: rest => some rest
  | _ => none

/-- Skips blanks, a comment and the end of the line or of the text. -/
def lineEnd? (text : Text) : Option Text :=
  let rest := match skipSpaces text with
    | '#' :: comment => comment.dropWhile isPlain
    | rest => rest
  if rest.isEmpty then some [] else newline? rest

/-- Skips blanks, comments and ends of lines. -/
def skipFiller (inComment : Bool) : Text → Text
  | '\n' :: rest => skipFiller false rest
  | '\r' :: '\n' :: rest => skipFiller false rest
  | char :: rest =>
    if inComment then if isPlain char then skipFiller true rest else char :: rest
    else if isSpace char then skipFiller false rest
    else if char == '#' then skipFiller true rest
    else char :: rest
  | [] => []

/-- Skips blanks and ends of lines. -/
def skipLines : Text → Text
  | '\n' :: rest => skipLines rest
  | '\r' :: '\n' :: rest => skipLines rest
  | char :: rest => if isSpace char then skipLines rest else char :: rest
  | [] => []

/-- The character with a code of a given number of hexadecimal digits. -/
def codeChar? (count : Nat) (text : Text) : Option Char :=
  let digits := text.take count
  let value := digits.foldlM (fun value digit =>
    if digit.isDigit then some (16 * value + (digit.toNat - '0'.toNat))
    else if 'a' ≤ digit.toLower && digit.toLower ≤ 'f' then
      some (16 * value + (digit.toLower.toNat - 'a'.toNat + 10))
    else none) 0
  match value with
  | some code => if digits.length == count && code.isValidChar then some (Char.ofNat code) else none
  | none => none

/-- The character that an escape stands for, and the length of the escape after its backslash. -/
def escape? : Text → Option (Char × Nat)
  | 'b' :: _ => some ('\x08', 1)
  | 't' :: _ => some ('\t', 1)
  | 'n' :: _ => some ('\n', 1)
  | 'f' :: _ => some ('\x0C', 1)
  | 'r' :: _ => some ('\r', 1)
  | '"' :: _ => some ('"', 1)
  | '\\' :: _ => some ('\\', 1)
  | 'u' :: digits => (codeChar? 4 digits).map fun char => (char, 5)
  | 'U' :: digits => (codeChar? 8 digits).map fun char => (char, 9)
  | _ => none

/-- A string on one line after its opening quote. The pending characters are the rest of an escape.
The string read so far is in reverse. -/
def basicString (read : Text) (pending : Nat) : Text → Option (Text × Text)
  | [] => none
  | char :: rest =>
    match pending with
    | pending + 1 => basicString read pending rest
    | 0 =>
      if char == '"' then some (read.reverse, rest)
      else if char == '\\' then
        match escape? rest with
        | some (escaped, length) => basicString (escaped :: read) length rest
        | none => none
      else if isPlain char then basicString (char :: read) 0 rest
      else none

/-- A literal string after its opening apostrophe, without escapes. -/
def literalString (text : Text) : Option (Text × Text) :=
  let read := text.takeWhile fun char => isPlain char && char != '\''
  match text.drop read.length with
  | '\'' :: rest => some (read, rest)
  | _ => none

/-- Three quotes in a row. -/
def opensTriple (quote : Char) (text : Text) : Bool := text.take 3 == List.replicate 3 quote

/-- The end of a string in triple quotes: up to two more quotes belong to the string. -/
def closing? (quote : Char) (read rest : Text) : Option (Text × Text) :=
  let extra := (rest.takeWhile (· == quote)).length
  if extra ≤ 2 then some ((List.replicate extra quote ++ read).reverse, rest.drop extra) else none

/-- A string in triple quotes after its opening. A backslash at the end of a line skips all blanks
and ends of lines that follow; every other end of a line is one character. -/
def basicLines (read : Text) (pending : Nat) : Text → Option (Text × Text)
  | [] => none
  | char :: rest =>
    match pending with
    | pending + 1 => basicLines read pending rest
    | 0 =>
      if opensTriple '"' (char :: rest) then closing? '"' read (rest.drop 2)
      else if char == '\\' then
        if (newline? (skipSpaces rest)).isSome then
          basicLines read (rest.length - (skipLines rest).length) rest
        else
          match escape? rest with
          | some (escaped, length) => basicLines (escaped :: read) length rest
          | none => none
      else if char == '\n' then basicLines ('\n' :: read) 0 rest
      else if char == '\r' && rest.head? == some '\n' then basicLines read 0 rest
      else if isPlain char then basicLines (char :: read) 0 rest
      else none

/-- A literal string in triple apostrophes after its opening. -/
def literalLines (read : Text) : Text → Option (Text × Text)
  | [] => none
  | char :: rest =>
    if opensTriple '\'' (char :: rest) then closing? '\'' read (rest.drop 2)
    else if char == '\n' then literalLines ('\n' :: read) rest
    else if char == '\r' && rest.head? == some '\n' then literalLines read rest
    else if isPlain char then literalLines (char :: read) rest
    else none

/-- An end of a line right after an opening in triple quotes is no part of the string. -/
def afterOpening (text : Text) : Text := (newline? text).getD text

/-- A string in any of the four forms. -/
def string? : Text → Option (Text × Text)
  | '"' :: '"' :: '"' :: rest => basicLines [] 0 (afterOpening rest)
  | '"' :: rest => basicString [] 0 rest
  | '\'' :: '\'' :: '\'' :: rest => literalLines [] (afterOpening rest)
  | '\'' :: rest => literalString rest
  | _ => none

/-- The characters of a key without quotes. -/
def isBareKeyChar (char : Char) : Bool := char.isAlphanum || char == '-' || char == '_'

/-- One key: a string on one line, or letters, digits, dashes and underscores. -/
def key? : Text → Option (Text × Text)
  | '"' :: rest => basicString [] 0 rest
  | '\'' :: rest => literalString rest
  | text =>
    let key := text.takeWhile isBareKeyChar
    if key.isEmpty then none else some (key, text.drop key.length)

/-- At most so many keys, with dots between them and blanks around them. Each key takes at least
one character, so the length of a text bounds the number of its keys. -/
def keyPathWithin : Nat → Text → Option (List Text × Text)
  | 0, _ => none
  | bound + 1, text => do
    let (key, rest) ← key? (skipSpaces text)
    match skipSpaces rest with
    | '.' :: rest =>
      let (keys, rest) ← keyPathWithin bound rest
      return (key :: keys, rest)
    | rest => return ([key], rest)

end FlatSheet.Toml
