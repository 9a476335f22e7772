import FlatSheet.Number.Reading
import FlatSheet.Proofs.Text.Trimming

/-! # Texts and the numbers that are read in them

A numeral starts with a sign, a digit or a point. So a text that starts with anything else, blanks
aside, is no number: neither a formula, in quotes or not, nor a reference. A number that is read is
finite.
-/

namespace FlatSheet

/-- A text that starts with no sign, digit or point is no numeral. -/
theorem Decimal.ofText?_cons_eq_none {char : Char} (noSign : char ≠ '-' ∧ char ≠ '+')
    (noDigit : char.isDigit = false) (noPoint : char ≠ '.') (rest : Text) :
    ofText? (char :: rest) = none := by
  have sign : Text.spanSign (char :: rest) = (false, char :: rest) := by
    simp [Text.spanSign, noSign]
  have digits : Text.spanDigits (char :: rest) = ([], char :: rest) := by
    simp [Text.spanDigits, noDigit]
  have point : fraction (char :: rest) = ([], char :: rest) := by
    simp [fraction, noPoint]
  simp [ofText?, sign, digits, point]

theorem Number.parse?_cons_eq_none {char : Char} (notBlank : isBlank char = false)
    (noSign : char ≠ '-' ∧ char ≠ '+') (noDigit : char.isDigit = false) (noPoint : char ≠ '.')
    (rest : Text) : parse? (char :: rest) = none := by
  rw [parse?, Text.trim_cons notBlank, Decimal.ofText?_cons_eq_none noSign noDigit noPoint]
  rfl

/-- A text that starts with no sign or digit has no leading integer. -/
theorem Number.integerPrefix?_cons_eq_none {char : Char} (notBlank : isBlank char = false)
    (noSign : char ≠ '-' ∧ char ≠ '+') (noDigit : char.isDigit = false) (rest : Text) :
    integerPrefix? (char :: rest) = none := by
  have sign : Text.spanSign (char :: rest) = (false, char :: rest) := by
    simp [Text.spanSign, noSign]
  rw [integerPrefix?, Text.trimStart_eq_self (by rintro other ⟨⟩; exact notBlank), sign]
  simp [Text.spanDigits, noDigit]

/-- Blanks before a leading integer do not count. -/
theorem Number.integerPrefix?_append {lead : Text} (blank : lead.AllBlank) (text : Text) :
    integerPrefix? (lead ++ text) = integerPrefix? text := by
  rw [integerPrefix?, integerPrefix?, Text.trimStart_append blank]

theorem Decimal.isFinite_of_toFinite? {decimal : Decimal} {number : Float}
    (finite : decimal.toFinite? = some number) : Binary64.isFinite number = true := by
  rw [toFinite?] at finite
  split at finite
  · next holds => exact Option.some.inj finite ▸ holds
  · contradiction

theorem Number.isFinite_of_parse? {text : Text} {number : Float}
    (parsed : parse? text = some number) : Binary64.isFinite number = true := by
  obtain ⟨decimal, -, finite⟩ := Option.bind_eq_some_iff.mp parsed
  exact decimal.isFinite_of_toFinite? finite

theorem Number.isFinite_of_integerPrefix? {text : Text} {number : Float}
    (read : integerPrefix? text = some number) : Binary64.isFinite number = true := by
  simp only [integerPrefix?] at read
  split at read
  · contradiction
  · exact Decimal.isFinite_of_toFinite? read

end FlatSheet
