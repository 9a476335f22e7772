import FlatSheet.Proofs.Number.Grammar
import FlatSheet.Proofs.Number.Reading

/-! # Integers as they are read

A cell counts as its leading integer, and an operand has to be a number as a whole. The two readings
see a text in different ways: one skips the blanks before it, takes a sign and a run of digits and
leaves the rest alone, the other trims both ends and knows a point and an exponent. On the text of
an integer they come to the same sign and the same count, so they give the same number, or both find
that it is too large.
-/

namespace FlatSheet

namespace Text

/-- Blanks aside, a text is an integer when it is digits, at least one, alone or after a sign. -/
def IsInteger (text : Text) : Prop :=
  ∃ sign ∈ signs, ∃ digits : Text, digits ≠ [] ∧ digits.AllDigits ∧ text.trim = sign ++ digits

theorem head?_of_integer {sign digits : Text} (known : sign ∈ signs) (nonempty : digits ≠ [])
    (allDigits : digits.AllDigits) (rest : Text) :
    ∀ char ∈ (sign ++ digits ++ rest).head?, char = '+' ∨ char = '-' ∨ char.isDigit = true := by
  obtain ⟨digit, others, rfl⟩ := List.exists_cons_of_ne_nil nonempty
  have isDigit : digit.isDigit = true := allDigits digit List.mem_cons_self
  simp only [signs, List.mem_cons, List.not_mem_nil, or_false] at known
  rcases known with rfl | rfl | rfl
  · rintro char ⟨⟩
    exact .inr (.inr isDigit)
  · rintro char ⟨⟩
    exact .inl rfl
  · rintro char ⟨⟩
    exact .inr (.inl rfl)

/-- An integer starts with a blank, a sign or a digit, so it is neither a formula nor quoted. -/
theorem IsInteger.exists_plain {text : Text} (integer : text.IsInteger) :
    ∃ first rest, text = first :: rest ∧ first ≠ '"' ∧ first ≠ '=' := by
  obtain ⟨sign, known, digits, nonempty, allDigits, trimmed⟩ := integer
  obtain ⟨lead, trail, atStart, -, split⟩ := text.exists_blanks_trim
  rw [trimmed, List.append_assoc] at split
  cases lead with
  | cons first rest =>
    refine ⟨first, _, split, ?_⟩
    have blank := atStart first List.mem_cons_self
    constructor <;> rintro rfl <;> contradiction
  | nil =>
    rw [List.nil_append] at split
    have present : text ≠ [] := by simp [split, nonempty]
    obtain ⟨first, rest, rfl⟩ := List.exists_cons_of_ne_nil present
    refine ⟨first, rest, rfl, ?_⟩
    have start := head?_of_integer known nonempty allDigits trail first (by rw [← split]; rfl)
    constructor <;> rintro rfl <;> simp at start

end Text

namespace Number

/-- A text cut where its leading integer is read: the blanks at its start, the sign that follows, if
any, all digits after that, and the rest. -/
structure LeadingInteger (text lead sign digits rest : Text) : Prop where
  split : text = lead ++ (sign ++ (digits ++ rest))
  allBlank : lead.AllBlank
  noBlank : ∀ char ∈ (sign ++ (digits ++ rest)).head?, isBlank char = false
  known : sign ∈ Text.signs
  unsigned : sign = [] → ∀ char ∈ (digits ++ rest).head?, char ≠ '-' ∧ char ≠ '+'
  allDigits : digits.AllDigits
  ended : ∀ char ∈ rest.head?, char.isDigit = false

/-- Every text can be cut so. -/
theorem exists_leadingInteger (text : Text) :
    ∃ lead sign digits rest, LeadingInteger text lead sign digits rest := by
  obtain ⟨lead, allBlank, split⟩ := text.exists_append_trimStart
  have noBlank := text.head?_trimStart
  obtain ⟨sign, known, unread, signed, unsigned⟩ := text.trimStart.exists_sign_append
  have cut : unread.takeWhile Char.isDigit ++ unread.dropWhile Char.isDigit = unread :=
    List.takeWhile_append_dropWhile
  refine ⟨lead, sign, unread.takeWhile Char.isDigit, unread.dropWhile Char.isDigit, ?_, allBlank, ?_,
    known, ?_, fun char member => List.mem_takeWhile_imp member, fun char first => ?_⟩
  · rw [cut, ← signed, ← split]
  · rwa [cut, ← signed]
  · rwa [cut]
  · have refused := List.head?_dropWhile_not Char.isDigit unread
    rw [Option.mem_def.mp first] at refused
    simpa using refused

/-- The leading integer is the count of its digits with its sign, whatever follows. -/
theorem LeadingInteger.integerPrefix?_eq {text lead sign digits rest : Text}
    (leads : LeadingInteger text lead sign digits rest) :
    integerPrefix? text = if digits = [] then none else
      Decimal.toFinite? { negative := sign == ['-'], significand := digits.toNumber, exponent := 0 } := by
  rw [integerPrefix?, leads.split, Text.trimStart_append leads.allBlank,
    Text.trimStart_eq_self leads.noBlank, Text.spanSign_append leads.known leads.unsigned]
  simp only [Text.spanDigits_append leads.allDigits leads.ended, List.isEmpty_iff]

/-- A sign and digits lead a text when no digit follows. -/
theorem leadingInteger_of_digits {sign digits rest : Text} (known : sign ∈ Text.signs)
    (nonempty : digits ≠ []) (allDigits : digits.AllDigits)
    (ended : ∀ char ∈ rest.head?, char.isDigit = false) {lead : Text} (allBlank : lead.AllBlank) :
    LeadingInteger (lead ++ (sign ++ (digits ++ rest))) lead sign digits rest where
  split := rfl
  allBlank := allBlank
  noBlank := by
    intro char first
    rw [← List.append_assoc] at first
    rcases Text.head?_of_integer known nonempty allDigits rest char first with rfl | rfl | isDigit
    · rfl
    · rfl
    · exact not_isBlank_of_isDigit isDigit
  known := known
  unsigned := by
    rintro - char first
    obtain ⟨digit, others, rfl⟩ := List.exists_cons_of_ne_nil nonempty
    obtain rfl : digit = char := Option.some.inj first
    exact Text.ne_sign_of_isDigit (allDigits digit List.mem_cons_self)
  allDigits := allDigits
  ended := ended

/-- Without a point and an exponent a numeral is its sign and its digits. -/
theorem ofText?_of_digits {sign digits : Text} (known : sign ∈ Text.signs) (nonempty : digits ≠ [])
    (allDigits : digits.AllDigits) :
    Decimal.ofText? (sign ++ digits) =
      some { negative := sign == ['-'], significand := digits.toNumber, exponent := 0 } := by
  have read := Decimal.Spelling.ofText?_text
    ⟨sign, digits, none, none, known, allDigits, by simp, .inl nonempty⟩
  simpa [Decimal.Spelling.text, Decimal.Spelling.decimal, Decimal.Spelling.part,
    Decimal.Spelling.pointed, Decimal.Exponent.ending, Decimal.Exponent.scale] using read

/-- The two readings of an integer agree, also where it is beyond the finite numbers. Blanks at the
end are left over by the one and trimmed by the other. -/
theorem integerPrefix?_eq_parse? {text : Text} (integer : text.IsInteger) :
    integerPrefix? text = parse? text := by
  obtain ⟨sign, known, digits, nonempty, allDigits, trimmed⟩ := integer
  obtain ⟨lead, trail, atStart, atEnd, split⟩ := text.exists_blanks_trim
  have ended : ∀ char ∈ trail.head?, char.isDigit = false := fun char first =>
    not_isDigit_of_isBlank (atEnd char (List.mem_of_mem_head? first))
  have leads := leadingInteger_of_digits known nonempty allDigits ended atStart
  rw [← List.append_assoc sign, ← trimmed, ← List.append_assoc, ← split] at leads
  rw [leads.integerPrefix?_eq, if_neg nonempty, parse?, trimmed,
    ofText?_of_digits known nonempty allDigits, Option.bind_some]

end Number

end FlatSheet
