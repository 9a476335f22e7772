import FlatSheet.Proofs.Reference.Spelling

/-! # References as they are shown

A reference is shown as the capital letter of its column and the fewest digits of its row. That text
resolves to the same reference whenever the column has a letter and the row is positive, and
otherwise to nothing, because a question mark is no letter and zero is no row. So resolving any
spelling, showing the reference and resolving again changes nothing.
-/

namespace FlatSheet.Reference

private theorem not_isBlank_letter (reference : Reference) : isBlank reference.letter = false := by
  rw [letter]
  split
  · next inside => exact not_isBlank_of_isAlpha (isAlpha_columnOf_of_case inside (.inl rfl)).1
  · rfl

theorem trim_text (reference : Reference) : reference.text.trim = reference.text := by
  apply Text.trim_eq_self
  constructor
  · rintro char ⟨⟩
    exact reference.not_isBlank_letter
  · intro char last
    rw [text, List.getLast?_cons_of_ne_nil (Text.ofNumber_ne_nil _)] at last
    exact not_isBlank_of_isDigit (Text.allDigits_ofNumber _ char (List.mem_of_getLast? last))

/-- The text of a reference resolves to no other one. -/
theorem eq_of_resolve_text {reference other : Reference}
    (resolved : resolve reference.text = .ok other) : other = reference := by
  rw [resolve_eq_ok_iff, parse?_eq_some_iff, trim_text] at resolved
  obtain ⟨letter, digits, shown, alpha, -, -, -, -, rfl⟩ := resolved
  obtain ⟨rfl, rfl⟩ := List.cons.inj shown
  have inside : reference.column < columnCount := by
    by_contra outside
    rw [Reference.letter, if_neg outside] at alpha
    contradiction
  have sameColumn := (isAlpha_columnOf_of_case inside (.inl rfl)).2
  rw [Text.toNumber_ofNumber, Reference.letter, if_pos inside, sameColumn]

private theorem resolve_text_eq_ok_iff (reference : Reference) :
    resolve reference.text = .ok reference ↔
    reference.column < columnCount ∧ 0 < reference.row ∧ reference.row < rowBound := by
  rw [resolve_eq_ok_iff_spelling, spelling_text_iff]

/-- Where the text of a reference does not resolve to it, it is refused. -/
theorem resolve_text_eq_error {reference : Reference}
    (other : resolve reference.text ≠ .ok reference) :
    resolve reference.text = .error (.invalidReference reference.text) := by
  refine (resolve_eq_error_iff ..).mpr ⟨fun found resolved => other ?_, rfl⟩
  rwa [eq_of_resolve_text resolved] at resolved

/-- The digits after the letter are those of a row, which has 64 bits and is not zero. -/
def HasRow (text : Text) : Prop :=
  1 ≤ Text.toNumber (text.drop 1) ∧ Text.toNumber (text.drop 1) ≤ 2 ^ 64 - 1

instance (text : Text) : Decidable (HasRow text) := inferInstanceAs (Decidable (_ ∧ _))

theorem row_bounds_iff (row : Nat) : 1 ≤ row ∧ row ≤ 2 ^ 64 - 1 ↔ 0 < row ∧ row < rowBound := by
  simp only [rowBound, Nat.pow_eq]
  omega

/-- A letter and digits spell a reference exactly when the digits are those of a row. -/
theorem Shaped.hasRow_iff {text : Text} (shaped : Shaped text) :
    HasRow text ↔ ∃ reference, Spelling reference text := by
  have trimmed := Text.trim_eq_self shaped.trimmed
  simp only [← resolve_eq_ok_iff_spelling, resolve_eq_ok_iff, parse?_eq_some_iff, trimmed]
  cases shaped with
  | @mk letter digits alpha nonempty allDigits =>
    rw [HasRow, row_bounds_iff]
    constructor
    · rintro ⟨positive, below⟩
      exact ⟨_, letter, digits, rfl, alpha, nonempty, allDigits, positive, below, rfl⟩
    · rintro ⟨reference, _, _, ⟨⟩, -, -, -, positive, below, -⟩
      exact ⟨positive, below⟩

/-- What a text is, blanks aside, when it resolves to a reference. -/
theorem resolve_eq_ok_iff_trim (text : Text) (reference : Reference) :
    resolve text = .ok reference ↔ ∃ (letter : Char) (digits : Text),
      text.trim = letter :: digits ∧
      (letter = Char.ofNat ('A'.toNat + reference.column) ∨
        letter = Char.ofNat ('a'.toNat + reference.column)) ∧ reference.column < columnCount ∧
      digits ≠ [] ∧ digits.AllDigits ∧ Text.toNumber digits = reference.row ∧
      0 < reference.row ∧ reference.row < rowBound := by
  rw [resolve_eq_ok_iff, parse?_eq_some_iff]
  constructor
  · rintro ⟨letter, digits, trimmed, alpha, nonempty, allDigits, positive, below, rfl⟩
    exact ⟨letter, digits, trimmed, case_of_isAlpha alpha, columnOf_lt alpha, nonempty, allDigits,
      rfl, positive, below⟩
  · rintro ⟨letter, digits, trimmed, case, inside, nonempty, allDigits, sameRow, positive, below⟩
    obtain ⟨alpha, sameColumn⟩ := isAlpha_columnOf_of_case inside case
    refine ⟨letter, digits, trimmed, alpha, nonempty, allDigits, ?_, ?_, ?_⟩
    · rwa [sameRow]
    · rwa [sameRow]
    · rw [sameColumn, sameRow]

/-- The text of a reference with a row of 64 bits resolves to that reference exactly when the column
is one of the first 26 and the row is at least 1, and is refused otherwise. A text resolves to a
reference exactly when it is, blanks around it aside, the letter of the column in either case and
digits, at least one, whose number is the row, from 1 to the largest number of 64 bits. These are the
spellings of the reference, with any number of zeros before the fewest digits of the row. Whatever
resolves is shown as the capital letter and those fewest digits, and resolves to the same reference
again. Whatever does not resolve is refused with the text as it is. -/
theorem resolve_text_and_spellings :
    (∀ reference : Reference, reference.row < 2 ^ 64 →
      (resolve reference.text = .ok reference ↔ reference.column < 26 ∧ 1 ≤ reference.row) ∧
      (¬(reference.column < 26 ∧ 1 ≤ reference.row) →
        resolve reference.text = .error (.invalidReference reference.text))) ∧
    (∀ text reference, resolve text = .ok reference ↔ ∃ (letter : Char) (digits : Text),
      text.trim = letter :: digits ∧
      (letter = Char.ofNat ('A'.toNat + reference.column) ∨
        letter = Char.ofNat ('a'.toNat + reference.column)) ∧ reference.column < 26 ∧
      digits ≠ [] ∧ digits.AllDigits ∧ Text.toNumber digits = reference.row ∧
      1 ≤ reference.row ∧ reference.row ≤ 2 ^ 64 - 1) ∧
    (∀ text reference, resolve text = .ok reference ↔ Spelling reference text) ∧
    (∀ text reference, resolve text = .ok reference →
      reference.text = Char.ofNat ('A'.toNat + reference.column) :: Text.ofNumber reference.row ∧
      (Text.ofNumber reference.row).head? ≠ some '0' ∧
      resolve reference.text = .ok reference) ∧
    ∀ text fault, resolve text = .error fault → fault = .invalidReference text := by
  refine ⟨?_, ?_, resolve_eq_ok_iff_spelling, ?_, ?_⟩
  · intro reference below
    have shown : resolve reference.text = .ok reference ↔
        reference.column < 26 ∧ 1 ≤ reference.row := by
      rw [resolve_text_eq_ok_iff, ← and_assoc]
      exact and_iff_left below
    exact ⟨shown, fun outside => resolve_text_eq_error (mt shown.mp outside)⟩
  · intro text reference
    rw [resolve_eq_ok_iff_trim, row_bounds_iff]
    rfl
  · intro text reference resolved
    have spelling := (resolve_eq_ok_iff_spelling ..).mp resolved
    obtain ⟨inside, positive, -⟩ := spelling.bounds
    refine ⟨?_, Text.head?_ofNumber_ne_zero positive, ?_⟩
    · rw [Reference.text, letter, if_pos inside]
    · exact (resolve_eq_ok_iff_spelling ..).mpr spelling.spelling_text
  · exact fun text fault failed => ((resolve_eq_error_iff ..).mp failed).2

/-- The largest row in the last column, in a small letter, with zeros and blanks around it; the next
row, the next column, row zero and a letter that is not of ASCII are refused. -/
theorem resolve_text_and_spellings_bounds :
    let last : Reference := ⟨25, 18446744073709551615⟩
    let spelled := "\t z00018446744073709551615\u00a0".toList
    last.row < 2 ^ 64 ∧ resolve last.text = .ok last ∧ resolve spelled = .ok last ∧
      Spelling last spelled ∧ last.text = "Z18446744073709551615".toList ∧
      resolve (text ⟨26, 1⟩) = .error (.invalidReference "?1".toList) ∧
      resolve (text ⟨0, 0⟩) = .error (.invalidReference "A0".toList) ∧
      resolve "Z18446744073709551616".toList =
        .error (.invalidReference "Z18446744073709551616".toList) ∧
      ∃ fault, resolve " Ä1".toList = .error fault ∧ fault = .invalidReference " Ä1".toList := by
  intro last spelled
  obtain ⟨shown, trimmed, spellings, again, refused⟩ := resolve_text_and_spellings
  have resolved : resolve spelled = .ok last := by decide +kernel
  have below : last.row < 2 ^ 64 := by decide
  have failed : resolve " Ä1".toList = .error (.invalidReference " Ä1".toList) := by
    decide +kernel
  refine ⟨below, ((shown last below).1).mpr (by decide), resolved, (spellings _ _).mp resolved,
    by decide +kernel, (shown ⟨26, 1⟩ (by decide)).2 (by decide), (shown ⟨0, 0⟩ (by decide)).2 (by decide),
    by decide +kernel, _, failed, refused _ _ failed⟩

end FlatSheet.Reference
