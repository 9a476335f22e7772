import FlatSheet.Proofs.Number.Integer
import FlatSheet.Proofs.Reference.Parsing

/-! # Numbers that are not finite

An infinity and what is not a number have names, and a numeral may be too large for a finite number.
Such a text is no number that is read, and it is no reference either: a sign, a digit or a point does
not start a reference, and the names have a second letter where a reference has a digit.
-/

namespace FlatSheet

/-- No character but a letter has a letter for its capital. -/
theorem isAlpha_of_isAlpha_toUpper {char : Char} (alpha : char.toUpper.isAlpha = true) :
    char.isAlpha = true := by
  by_cases small : 97 ≤ char.toNat ∧ char.toNat ≤ 122
  · exact (isAlpha_iff char).mpr (.inr small)
  · have same : char.toUpper = char := by
      change (if _ : char.val ≥ 97 ∧ char.val ≤ 122 then _ else char) = char
      exact dif_neg small
    rwa [same] at alpha

/-- What follows the sign of a numeral is a digit or a point. -/
theorem Decimal.ofText?_signed_eq_none {sign : Text} (signed : sign ∈ Text.signs) {char : Char}
    (noSign : char ≠ '-' ∧ char ≠ '+') (noDigit : char.isDigit = false) (noPoint : char ≠ '.')
    (rest : Text) : ofText? (sign ++ char :: rest) = none := by
  have digits : Text.spanDigits (char :: rest) = ([], char :: rest) := by
    simp [Text.spanDigits, noDigit]
  have point : fraction (char :: rest) = ([], char :: rest) := by
    simp [fraction, noPoint]
  have unsigned : sign = [] → ∀ other ∈ (char :: rest).head?, other ≠ '-' ∧ other ≠ '+' := by
    rintro - other ⟨⟩
    exact noSign
  rw [ofText?, Text.spanSign_append signed unsigned]
  simp [digits, point]

namespace Number

/-- The names of an infinity and of what is not a number, in capitals. -/
def nonfiniteNames : List Text := ["INF".toList, "INFINITY".toList, "NAN".toList]

/-- Blanks aside, one of the names in any case, alone or after a sign, or a numeral that is rounded
to an infinity. -/
inductive Nonfinite (text : Text) : Prop
  | named {sign name : Text} (signed : sign ∈ Text.signs) (known : name.upper ∈ nonfiniteNames)
      (trimmed : text.trim = sign ++ name)
  | beyond {decimal : Decimal} (numeral : Decimal.ofText? text.trim = some decimal)
      (infinite : decimal.toFinite? = none)

/-- The names start with two letters. -/
theorem exists_letters_of_known {name : Text} (known : name.upper ∈ nonfiniteNames) :
    ∃ first second rest, name = first :: second :: rest ∧ first.isAlpha = true ∧
      second.isAlpha = true := by
  have capitals : ∀ capital ∈ nonfiniteNames, 2 ≤ capital.length ∧
      capital.all Char.isAlpha = true := by decide
  obtain ⟨long, letters⟩ := capitals _ known
  rw [Text.upper, List.length_map] at long
  rw [Text.upper, List.all_map, List.all_eq_true] at letters
  obtain ⟨first, second, rest, rfl⟩ : ∃ first second rest, name = first :: second :: rest := by
    match name, long with
    | first :: second :: rest, _ => exact ⟨first, second, rest, rfl⟩
  exact ⟨first, second, rest, rfl, isAlpha_of_isAlpha_toUpper (letters first (by simp)),
    isAlpha_of_isAlpha_toUpper (letters second (by simp))⟩

variable {text : Text}

theorem Nonfinite.parse?_eq_none (nonfinite : Nonfinite text) : parse? text = none := by
  cases nonfinite with
  | @named sign name signed known trimmed =>
    obtain ⟨first, second, rest, rfl, alpha, -⟩ := exists_letters_of_known known
    rw [parse?, trimmed, Decimal.ofText?_signed_eq_none signed (ne_sign_of_isAlpha alpha)
      (isDigit_eq_false_of_isAlpha alpha) (ne_point_of_isAlpha alpha)]
    rfl
  | beyond numeral infinite => rw [parse?, numeral, Option.bind_some, infinite]

/-- A text with the name of an infinity, or with a numeral that is too large, resolves to nothing. -/
theorem Nonfinite.resolve_ne_ok (nonfinite : Nonfinite text) (reference : Reference) :
    Reference.resolve text ≠ .ok reference := by
  intro resolved
  cases nonfinite with
  | @named sign name signed known trimmed =>
    obtain ⟨first, second, rest, rfl, -, alpha⟩ := exists_letters_of_known known
    obtain ⟨letter, digits, split, isLetter, -, allDigits, -⟩ :=
      (Reference.parse?_eq_some_iff ..).mp ((Reference.resolve_eq_ok_iff ..).mp resolved)
    rw [trimmed] at split
    simp only [Text.signs, List.mem_cons, List.not_mem_nil, or_false] at signed
    rcases signed with rfl | rfl | rfl
    · obtain ⟨rfl, rfl⟩ := List.cons.inj split
      have digit := allDigits second List.mem_cons_self
      rw [isDigit_eq_false_of_isAlpha alpha] at digit
      contradiction
    · obtain ⟨rfl, -⟩ := List.cons.inj split
      contradiction
    · obtain ⟨rfl, -⟩ := List.cons.inj split
      contradiction
  | beyond numeral infinite =>
    rw [Reference.ofText?_eq_none resolved] at numeral
    contradiction

end Number

end FlatSheet
