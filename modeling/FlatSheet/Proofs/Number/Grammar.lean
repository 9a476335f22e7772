import FlatSheet.Number.Decimal
import FlatSheet.Proofs.Text.Digits

/-! # Decimal numerals as they are written

A numeral is a sign or none, digits with a point anywhere among them or with none, and an exponent
or none. The reading accepts these spellings and no other text, and takes from them all of their
digits as one count with the exponent of the last.
-/

namespace FlatSheet

namespace Decimal

/-- An exponent as it is written. -/
structure Exponent where
  mark : Char
  sign : Text
  digits : Text
  knownMark : mark = 'e' ∨ mark = 'E'
  knownSign : sign ∈ Text.signs
  present : digits ≠ []
  allDigits : digits.AllDigits

/-- A numeral as it is written. There may be a point without digits on one of its sides. -/
structure Spelling where
  sign : Text
  whole : Text
  part? : Option Text
  exponent? : Option Exponent
  knownSign : sign ∈ Text.signs
  wholeDigits : whole.AllDigits
  partDigits : ∀ part ∈ part?, part.AllDigits
  present : whole ≠ [] ∨ ∃ part ∈ part?, part ≠ []

namespace Exponent

def text (exponent : Exponent) : Text := exponent.mark :: (exponent.sign ++ exponent.digits)

def power (exponent : Exponent) : ℤ :=
  if exponent.sign = ['-'] then -Text.toNumber exponent.digits else Text.toNumber exponent.digits

/-- The end of a numeral, with an exponent or without. -/
def ending : Option Exponent → Text
  | none => []
  | some exponent => exponent.text

/-- The power of ten that the end of a numeral stands for. -/
def scale : Option Exponent → ℤ
  | none => 0
  | some exponent => exponent.power

theorem head?_ending {exponent? : Option Exponent} {char : Char}
    (first : char ∈ (ending exponent?).head?) : char = 'e' ∨ char = 'E' := by
  cases exponent? with
  | none => contradiction
  | some exponent =>
    obtain rfl : exponent.mark = char := Option.some.inj first
    exact exponent.knownMark

private theorem exponent?_ending (exponent? : Option Exponent) :
    Decimal.exponent? (ending exponent?) = some (scale exponent?) := by
  cases exponent? with
  | none => rfl
  | some exponent =>
    have signed := Text.spanSign_append_digits exponent.knownSign exponent.present
      exponent.allDigits []
    rw [List.append_nil, List.append_nil] at signed
    rw [ending, text, Decimal.exponent?, signed]
    simp [Text.spanDigits_eq_self exponent.allDigits, exponent.knownMark, exponent.present, scale,
      power]

private theorem exists_of_exponent? {text : Text} {power : ℤ}
    (read : Decimal.exponent? text = some power) :
    ∃ exponent?, text = ending exponent? ∧ power = scale exponent? := by
  cases text with
  | nil => exact ⟨none, rfl, (Option.some.inj read).symm⟩
  | cons mark rest =>
    obtain ⟨sign, known, digits, rfl, unsigned⟩ := Text.exists_sign_append rest
    rw [Decimal.exponent?, Text.spanSign_append known unsigned] at read
    simp only [Text.spanDigits, Option.ite_none_right_eq_some, Bool.and_eq_true, Bool.or_eq_true,
      beq_iff_eq, Bool.not_eq_true', List.isEmpty_eq_false_iff, List.isEmpty_iff,
      List.dropWhile_eq_nil_iff, Option.some.injEq] at read
    obtain ⟨⟨⟨knownMark, present⟩, allDigits⟩, same⟩ := read
    rw [List.takeWhile_eq_self_iff.mpr allDigits] at present same
    exact ⟨some ⟨mark, sign, digits, knownMark, known, present, allDigits⟩, rfl, same.symm⟩

end Exponent

namespace Spelling

/-- A point and the digits after it, if there is one. -/
def pointed : Option Text → Text
  | none => []
  | some part => '.' :: part

/-- The digits after the point. -/
def part (spelling : Spelling) : Text := spelling.part?.getD []

def text (spelling : Spelling) : Text :=
  spelling.sign ++
    (spelling.whole ++ (pointed spelling.part? ++ Exponent.ending spelling.exponent?))

/-- All digits as one count, with the exponent of the last. -/
def decimal (spelling : Spelling) : Decimal where
  negative := spelling.sign == ['-']
  significand := Text.toNumber (spelling.whole ++ spelling.part)
  exponent := Exponent.scale spelling.exponent? - spelling.part.length

/-- An exponent or the end follows the digits after a point. -/
theorem not_isDigit_of_head?_ending (exponent? : Option Exponent) :
    ∀ char ∈ (Exponent.ending exponent?).head?, char.isDigit = false := by
  intro char first
  rcases Exponent.head?_ending first with rfl | rfl <;> rfl

/-- A point, an exponent or the end follows the digits at the start. -/
theorem not_isDigit_of_head?_pointed (part? : Option Text) (exponent? : Option Exponent) :
    ∀ char ∈ (pointed part? ++ Exponent.ending exponent?).head?, char.isDigit = false := by
  cases part? with
  | none => exact not_isDigit_of_head?_ending exponent?
  | some part =>
    rintro char ⟨⟩
    rfl

theorem fraction_eq_self {text : Text} (noPoint : text.head? ≠ some '.') :
    fraction text = ([], text) := by
  cases text with
  | nil => rfl
  | cons char rest =>
    have other : char ≠ '.' := fun point => noPoint (congrArg some point)
    simp [fraction, other]

private theorem fraction_append {part? : Option Text} (partDigits : ∀ part ∈ part?, part.AllDigits)
    (exponent? : Option Exponent) :
    fraction (pointed part? ++ Exponent.ending exponent?) =
      (part?.getD [], Exponent.ending exponent?) := by
  cases part? with
  | some part =>
    exact Text.spanDigits_append (partDigits part rfl) (not_isDigit_of_head?_ending exponent?)
  | none =>
    refine fraction_eq_self fun point => ?_
    rcases Exponent.head?_ending point with mark | mark <;> contradiction

/-- What the fraction of a text is taken from: a point and its digits, or nothing. -/
theorem exists_pointed (text : Text) : ∃ part? : Option Text, ∃ rest,
    (∀ part ∈ part?, part.AllDigits) ∧ text = pointed part? ++ rest ∧
      fraction text = (part?.getD [], rest) := by
  by_cases point : text.head? = some '.'
  · obtain ⟨rest, rfl⟩ := List.head?_eq_some_iff.mp point
    refine ⟨some (rest.takeWhile Char.isDigit), rest.dropWhile Char.isDigit, ?_, ?_, rfl⟩
    · rintro part ⟨⟩ char member
      exact List.mem_takeWhile_imp member
    · rw [pointed, List.cons_append, List.takeWhile_append_dropWhile]
  · exact ⟨none, text, by simp, rfl, fraction_eq_self point⟩

/-- A digit or a point follows the sign. -/
theorem head?_unsigned (spelling : Spelling) {rest : Text} :
    ∀ char ∈ (spelling.whole ++ (pointed spelling.part? ++ rest)).head?,
      char ≠ '-' ∧ char ≠ '+' := by
  intro char first
  by_cases none : spelling.whole = []
  · obtain ⟨part, present, -⟩ := spelling.present.resolve_left (not_not.mpr none)
    rw [none, Option.mem_def.mp present] at first
    obtain rfl : '.' = char := Option.some.inj first
    decide
  · obtain ⟨digit, rest, split⟩ := List.exists_cons_of_ne_nil none
    rw [split] at first
    obtain rfl : digit = char := Option.some.inj first
    exact Text.ne_sign_of_isDigit (spelling.wholeDigits digit (by simp [split]))

private theorem whole_or_part_ne_nil (spelling : Spelling) :
    ¬(spelling.whole = [] ∧ spelling.part = []) := by
  rintro ⟨whole, none⟩
  obtain ⟨part, present, nonempty⟩ := spelling.present.resolve_left (not_not.mpr whole)
  rw [Spelling.part, Option.mem_def.mp present] at none
  exact nonempty none

/-- Every numeral is read, as all of its digits with one exponent. -/
theorem ofText?_text (spelling : Spelling) : ofText? spelling.text = some spelling.decimal := by
  rw [ofText?, text, Text.spanSign_append spelling.knownSign fun _ => spelling.head?_unsigned]
  simp only [Text.spanDigits_append spelling.wholeDigits (not_isDigit_of_head?_pointed _ _),
    fraction_append spelling.partDigits, Exponent.exponent?_ending, Option.map_some]
  rw [if_neg (by simpa [part] using spelling.whole_or_part_ne_nil)]
  rfl

/-- No other text is read as a numeral. -/
theorem exists_of_ofText? {text : Text} {decimal : Decimal} (read : ofText? text = some decimal) :
    ∃ spelling : Spelling, text = spelling.text ∧ decimal = spelling.decimal := by
  obtain ⟨sign, known, unread, rfl, unsigned⟩ := Text.exists_sign_append text
  obtain ⟨part?, rest, partDigits, split, cut⟩ := exists_pointed (unread.dropWhile Char.isDigit)
  rw [ofText?, Text.spanSign_append known unsigned] at read
  simp only [Text.spanDigits, cut] at read
  obtain ⟨present, power, scaled, rfl⟩ := by
    simpa only [Option.ite_none_left_eq_some, Bool.and_eq_true, List.isEmpty_iff,
      Option.map_eq_some_iff] using read
  obtain ⟨exponent?, rfl, rfl⟩ := Exponent.exists_of_exponent? scaled
  have whole : unread.takeWhile Char.isDigit ++ unread.dropWhile Char.isDigit = unread :=
    List.takeWhile_append_dropWhile
  have wholeDigits : Text.AllDigits (unread.takeWhile Char.isDigit) :=
    fun char member => List.mem_takeWhile_imp member
  have nonempty : unread.takeWhile Char.isDigit ≠ [] ∨ ∃ part ∈ part?, part ≠ [] := by
    by_cases none : unread.takeWhile Char.isDigit = []
    · cases part? with
      | none => exact absurd ⟨none, rfl⟩ present
      | some part => exact .inr ⟨part, rfl, fun empty => present ⟨none, empty⟩⟩
    · exact .inl none
  refine ⟨⟨sign, _, part?, exponent?, known, wholeDigits, partDigits, nonempty⟩, ?_, rfl⟩
  rw [text, ← split, whole]

/-- The texts that are read as numerals are the spellings. -/
theorem ofText?_eq_some_iff (text : Text) (decimal : Decimal) : ofText? text = some decimal ↔
    ∃ spelling : Spelling, text = spelling.text ∧ decimal = spelling.decimal := by
  refine ⟨exists_of_ofText?, ?_⟩
  rintro ⟨spelling, rfl, rfl⟩
  exact spelling.ofText?_text

end Spelling

end Decimal

end FlatSheet
