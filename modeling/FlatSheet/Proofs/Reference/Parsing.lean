import FlatSheet.Proofs.Number.Reading
import FlatSheet.Reference.Resolve

/-! # What a reference spells

Blanks aside, a reference is a letter of ASCII and digits whose number is a row. The letter alone
gives the column, one of the first 26, and it keeps the text from being a number as well.
-/

namespace FlatSheet

theorem isAlpha_iff (letter : Char) : letter.isAlpha = true ↔
    (65 ≤ letter.toNat ∧ letter.toNat ≤ 90) ∨ (97 ≤ letter.toNat ∧ letter.toNat ≤ 122) := by
  change (decide (65 ≤ letter.val ∧ letter.val ≤ 90) ||
    (decide (97 ≤ letter.val) && decide (letter.val ≤ 122))) = true ↔ _
  simp only [Bool.or_eq_true, Bool.and_eq_true, decide_eq_true_eq, UInt32.le_iff_toNat_le]
  rfl

theorem isDigit_eq_false_of_isAlpha {letter : Char} (alpha : letter.isAlpha = true) :
    letter.isDigit = false := by
  rw [isAlpha_iff] at alpha
  rw [Char.isDigit, Bool.and_eq_false_iff, decide_eq_false_iff_not, decide_eq_false_iff_not]
  right
  change ¬letter.toNat ≤ 57
  omega

theorem not_isBlank_of_isAlpha {letter : Char} (alpha : letter.isAlpha = true) :
    isBlank letter = false := by
  rw [isAlpha_iff] at alpha
  simp only [isBlank, Bool.or_eq_false_iff, Bool.and_eq_false_iff, decide_eq_false_iff_not,
    beq_eq_false_iff_ne]
  omega

theorem ne_sign_of_isAlpha {letter : Char} (alpha : letter.isAlpha = true) :
    letter ≠ '-' ∧ letter ≠ '+' := by
  constructor <;> rintro rfl <;> contradiction

theorem ne_point_of_isAlpha {letter : Char} (alpha : letter.isAlpha = true) : letter ≠ '.' := by
  rintro rfl
  contradiction

namespace Reference

/-- The code of a small letter is that of its capital plus 32, so the case does not count. -/
theorem columnOf_eq {letter : Char} (alpha : letter.isAlpha = true) :
    columnOf letter = (letter.toNat - 65) % 32 := by
  rw [isAlpha_iff] at alpha
  change (if _ : letter.val ≥ 97 ∧ letter.val ≤ 122 then _ else letter : Char).toNat - 65 = _
  split
  · next small =>
    have codes : 97 ≤ letter.toNat ∧ letter.toNat ≤ 122 := small
    change (letter.val + 4294967264).toNat - 65 = _
    rw [UInt32.toNat_add]
    change (letter.toNat + 4294967264) % 4294967296 - 65 = _
    omega
  · next notSmall =>
    have codes : ¬(97 ≤ letter.toNat ∧ letter.toNat ≤ 122) := notSmall
    omega

theorem columnOf_lt {letter : Char} (alpha : letter.isAlpha = true) :
    columnOf letter < columnCount := by
  rw [columnOf_eq alpha, columnCount]
  rw [isAlpha_iff] at alpha
  omega

theorem parse?_eq_some_iff (text : Text) (reference : Reference) :
    parse? text = some reference ↔ ∃ letter digits, text.trim = letter :: digits ∧
      letter.isAlpha = true ∧ digits ≠ [] ∧ (∀ digit ∈ digits, digit.isDigit = true) ∧
      0 < Text.toNumber digits ∧ Text.toNumber digits < rowBound ∧
      { column := columnOf letter, row := Text.toNumber digits } = reference := by
  rw [parse?]
  cases text.trim with
  | nil => simp
  | cons letter digits => simp [and_assoc]

theorem resolve_eq_ok_iff (text : Text) (reference : Reference) :
    resolve text = .ok reference ↔ parse? text = some reference := by
  cases parsed : parse? text <;> simp [resolve, parsed]

/-- A text that resolves to nothing is refused with the text. -/
theorem resolve_eq_error_iff (text : Text) (fault : Fault) :
    resolve text = .error fault ↔
      (∀ reference, resolve text ≠ .ok reference) ∧ fault = .invalidReference text := by
  cases parsed : parse? text <;> simp [resolve, parsed, eq_comm]

theorem column_lt_of_resolve {text : Text} {reference : Reference}
    (resolved : resolve text = .ok reference) : reference.column < columnCount := by
  rw [resolve_eq_ok_iff, parse?_eq_some_iff] at resolved
  obtain ⟨letter, digits, -, alpha, -, -, -, -, rfl⟩ := resolved
  exact columnOf_lt alpha

/-- A reference starts with a letter, so it is no numeral. -/
theorem ofText?_eq_none {text : Text} {reference : Reference}
    (resolved : resolve text = .ok reference) : Decimal.ofText? text.trim = none := by
  rw [resolve_eq_ok_iff, parse?_eq_some_iff] at resolved
  obtain ⟨letter, digits, trimmed, alpha, -⟩ := resolved
  rw [trimmed, Decimal.ofText?_cons_eq_none (ne_sign_of_isAlpha alpha)
    (isDigit_eq_false_of_isAlpha alpha) (ne_point_of_isAlpha alpha)]

theorem parse?_number_eq_none {text : Text} {reference : Reference}
    (resolved : resolve text = .ok reference) : Number.parse? text = none := by
  rw [Number.parse?, ofText?_eq_none resolved]
  rfl

/-- A reference has no leading integer either. -/
theorem integerPrefix?_eq_none {text : Text} {reference : Reference}
    (resolved : resolve text = .ok reference) : Number.integerPrefix? text = none := by
  rw [resolve_eq_ok_iff, parse?_eq_some_iff] at resolved
  obtain ⟨letter, digits, trimmed, alpha, -⟩ := resolved
  obtain ⟨lead, trail, blank, -, split⟩ := text.exists_blanks_trim
  rw [split, trimmed, List.append_assoc, Number.integerPrefix?_append blank]
  exact Number.integerPrefix?_cons_eq_none (not_isBlank_of_isAlpha alpha) (ne_sign_of_isAlpha alpha)
    (isDigit_eq_false_of_isAlpha alpha) _

end Reference

end FlatSheet
