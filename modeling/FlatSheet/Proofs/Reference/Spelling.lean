import FlatSheet.Proofs.Reference.Parsing
import FlatSheet.Proofs.Text.Digits

/-! # Spellings of a reference

A reference is spelled as the letter of its column in either case and its row after any number of
zeros, with blanks around both. These are all the texts that resolve to it, so a column has many
names.
-/

namespace FlatSheet.Reference

/-- The texts that spell a reference. -/
inductive Spelling : Reference → Text → Prop
  | mk {column row : Nat} {lead trail : Text} {letter : Char} (zeros : Nat)
      (atStart : lead.AllBlank) (atEnd : trail.AllBlank) (inside : column < columnCount)
      (case : letter = Char.ofNat ('A'.toNat + column) ∨ letter = Char.ofNat ('a'.toNat + column))
      (positive : 0 < row) (below : row < rowBound) :
    Spelling ⟨column, row⟩
      (lead ++ letter :: (List.replicate zeros '0' ++ Text.ofNumber row) ++ trail)

/-- Two texts that name one column. -/
def SameColumn (text other : Text) : Prop :=
  ∃ first second, Spelling first text ∧ Spelling second other ∧ first.column = second.column

/-- A letter and digits, of which there is at least one. -/
inductive Shaped : Text → Prop
  | mk {letter : Char} {digits : Text} (alpha : letter.isAlpha = true) (nonempty : digits ≠ [])
      (allDigits : digits.AllDigits) : Shaped (letter :: digits)

theorem Shaped.trimmed {text : Text} (shaped : Shaped text) : text.Trimmed := by
  cases shaped with
  | @mk letter digits alpha nonempty allDigits =>
    constructor
    · rintro char ⟨⟩
      exact not_isBlank_of_isAlpha alpha
    · intro char last
      rw [List.getLast?_cons_of_ne_nil nonempty] at last
      exact not_isBlank_of_isDigit (allDigits char (List.mem_of_getLast? last))

theorem isAlpha_columnOf_of_case {column : Nat} (inside : column < columnCount) {letter : Char}
    (case : letter = Char.ofNat ('A'.toNat + column) ∨ letter = Char.ofNat ('a'.toNat + column)) :
    letter.isAlpha = true ∧ columnOf letter = column := by
  have capital : ∀ column < 26, (Char.ofNat ('A'.toNat + column)).isAlpha = true ∧
      columnOf (Char.ofNat ('A'.toNat + column)) = column := by decide
  have small : ∀ column < 26, (Char.ofNat ('a'.toNat + column)).isAlpha = true ∧
      columnOf (Char.ofNat ('a'.toNat + column)) = column := by decide
  rcases case with rfl | rfl
  · exact capital column inside
  · exact small column inside

theorem case_of_isAlpha {letter : Char} (alpha : letter.isAlpha = true) :
    letter = Char.ofNat ('A'.toNat + columnOf letter) ∨
      letter = Char.ofNat ('a'.toNat + columnOf letter) := by
  have code (base : Nat) (same : letter.toNat = base + columnOf letter) :
      letter = Char.ofNat (base + columnOf letter) := by rw [← same, Char.ofNat_toNat]
  have column := columnOf_eq alpha
  rcases (isAlpha_iff letter).mp alpha with capital | small
  · exact .inl (code 65 (by omega))
  · exact .inr (code 97 (by omega))

theorem Spelling.exists_trim {reference : Reference} {text : Text}
    (spelling : Spelling reference text) :
    ∃ letter digits, text.trim = letter :: digits ∧ Shaped (letter :: digits) ∧
      columnOf letter = reference.column ∧ Text.toNumber digits = reference.row ∧
      0 < reference.row ∧ reference.row < rowBound := by
  cases spelling with
  | @mk column row lead trail letter zeros atStart atEnd inside case positive below =>
    obtain ⟨alpha, sameColumn⟩ := isAlpha_columnOf_of_case inside case
    have allDigits : Text.AllDigits (List.replicate zeros '0' ++ Text.ofNumber row) := by
      intro digit member
      rcases List.mem_append.mp member with zero | inRow
      · rw [List.eq_of_mem_replicate zero]
        rfl
      · exact Text.allDigits_ofNumber row digit inRow
    have shaped : Shaped (letter :: (List.replicate zeros '0' ++ Text.ofNumber row)) :=
      .mk alpha (by simp [Text.ofNumber_ne_nil]) allDigits
    refine ⟨_, _, Text.trim_eq_of_blanks atStart shaped.trimmed atEnd, shaped, sameColumn, ?_,
      positive, below⟩
    rw [Text.toNumber_zeros_append, Text.toNumber_ofNumber]

/-- A text resolves to a reference exactly when it spells it. -/
theorem resolve_eq_ok_iff_spelling (text : Text) (reference : Reference) :
    resolve text = .ok reference ↔ Spelling reference text := by
  rw [resolve_eq_ok_iff, parse?_eq_some_iff]
  constructor
  · rintro ⟨letter, digits, trimmed, alpha, -, allDigits, positive, below, rfl⟩
    obtain ⟨lead, trail, atStart, atEnd, split⟩ := text.exists_blanks_trim
    obtain ⟨zeros, spelled⟩ := Text.exists_zeros_append_ofNumber allDigits
    rw [if_neg (Nat.ne_of_gt positive)] at spelled
    rw [split, trimmed, spelled, Text.toNumber_zeros_append, Text.toNumber_ofNumber]
    exact .mk zeros atStart atEnd (columnOf_lt alpha) (case_of_isAlpha alpha) positive below
  · intro spelling
    obtain ⟨letter, digits, trimmed, shaped, sameColumn, sameRow, positive, below⟩ :=
      spelling.exists_trim
    cases shaped with
    | mk alpha nonempty allDigits =>
      rw [← sameRow] at positive below
      exact ⟨letter, digits, trimmed, alpha, nonempty, allDigits, positive, below,
        by rw [sameColumn, sameRow]⟩

theorem resolve_eq_error_iff_spelling (text : Text) (fault : Fault) :
    resolve text = .error fault ↔
      (∀ reference, ¬Spelling reference text) ∧ fault = .invalidReference text := by
  simp only [resolve_eq_error_iff, ne_eq, resolve_eq_ok_iff_spelling]

/-- Only a reference to a lettered column with a row of 64 bits has spellings. -/
theorem Spelling.bounds {reference : Reference} {text : Text} (spelling : Spelling reference text) :
    reference.column < columnCount ∧ 0 < reference.row ∧ reference.row < rowBound := by
  cases spelling with
  | mk zeros atStart atEnd inside case positive below => exact ⟨inside, positive, below⟩

/-- The text of a reference spells it where anything does. -/
theorem spelling_text_iff (reference : Reference) : Spelling reference reference.text ↔
    reference.column < columnCount ∧ 0 < reference.row ∧ reference.row < rowBound := by
  constructor
  · exact Spelling.bounds
  · obtain ⟨column, row⟩ := reference
    rintro ⟨inside, positive, below⟩
    have capital : Spelling ⟨column, row⟩ ([] ++ Char.ofNat ('A'.toNat + column) ::
        (List.replicate 0 '0' ++ Text.ofNumber row) ++ []) :=
      .mk 0 (List.forall_mem_nil _) (List.forall_mem_nil _) inside (.inl rfl) positive below
    simpa [Reference.text, Reference.letter, inside] using capital

/-- A reference that has a spelling is spelled by its own text. -/
theorem Spelling.spelling_text {reference : Reference} {text : Text}
    (spelling : Spelling reference text) : Spelling reference reference.text :=
  (spelling_text_iff reference).mpr spelling.bounds

theorem Spelling.shaped_trim {reference : Reference} {text : Text}
    (spelling : Spelling reference text) : Shaped text.trim := by
  obtain ⟨letter, digits, trimmed, shaped, -⟩ := spelling.exists_trim
  rwa [trimmed]

end FlatSheet.Reference
