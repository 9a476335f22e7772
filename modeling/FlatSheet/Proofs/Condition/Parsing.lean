import FlatSheet.Condition
import FlatSheet.Proofs.Reference.Spelling

/-! # Conditions between spelled references

A condition is read from left to right: a reference, a run of operator characters and a reference,
with blanks around each. None of the three can go on into the next one, so the parts of a text that
is put together from them are found again, without the blanks.
-/

namespace FlatSheet

namespace Reference

private theorem parse?_trim (text : Text) : parse? text.trim = parse? text := by
  rw [parse?, parse?, Text.trim_trim]

theorem resolve_trim_eq_ok_iff (text : Text) (reference : Reference) :
    resolve text.trim = .ok reference ↔ resolve text = .ok reference := by
  rw [resolve_eq_ok_iff, resolve_eq_ok_iff, parse?_trim]

end Reference

namespace Condition

theorem isOperatorChar_iff (char : Char) :
    isOperatorChar char = true ↔ char = '=' ∨ char = '<' ∨ char = '>' ∨ char = '!' := by
  simp [isOperatorChar, or_assoc]

theorem not_isBlank_of_isOperatorChar {char : Char} (isOperator : isOperatorChar char = true) :
    isBlank char = false := by
  rcases (isOperatorChar_iff char).mp isOperator with rfl | rfl | rfl | rfl <;> rfl

private theorem not_isDigit_of_isOperatorChar {char : Char}
    (isOperator : isOperatorChar char = true) :
    char.isDigit = false := by
  rcases (isOperatorChar_iff char).mp isOperator with rfl | rfl | rfl | rfl <;> rfl

private theorem not_isAlpha_of_isOperatorChar {char : Char}
    (isOperator : isOperatorChar char = true) :
    char.isAlpha = false := by
  rcases (isOperatorChar_iff char).mp isOperator with rfl | rfl | rfl | rfl <;> rfl

/-- Operator characters only, of which there is at least one. -/
structure Operator (text : Text) : Prop where
  nonempty : text ≠ []
  allOperators : ∀ char ∈ text, isOperatorChar char = true

theorem operator_text (comparison : Comparison) : Operator comparison.text := by
  cases comparison <;> exact ⟨by decide, List.all_eq_true.mp rfl⟩

private theorem Operator.head {operator : Text} (isOperator : Operator operator) (rest : Text) :
    ∃ char ∈ (operator ++ rest).head?, isOperatorChar char = true := by
  cases operator with
  | nil => exact absurd rfl isOperator.nonempty
  | cons char more => exact ⟨char, rfl, isOperator.allOperators char (List.mem_cons_self ..)⟩

private theorem spanReference?_append {text rest : Text} (shaped : Reference.Shaped text)
    (ended : ∀ char ∈ rest.head?, char.isDigit = false) :
    spanReference? (text ++ rest) = some (text, rest) := by
  cases shaped with
  | @mk letter digits alpha nonempty allDigits =>
    rw [List.cons_append, spanReference?, Text.spanDigits_append allDigits ended]
    simp [alpha, nonempty]

/-- A reference in blanks is split off without them. -/
theorem spanReference?_trimStart {text : Text} (shaped : Reference.Shaped text.trim) (rest : Text)
    (ended : ∀ char ∈ rest.head?, char.isDigit = false) :
    ∃ left : Text, spanReference? (text ++ rest).trimStart = some (text.trim, left) ∧
      left.trimStart = rest.trimStart := by
  obtain ⟨lead, trail, atStart, atEnd, split⟩ := text.exists_blanks_trim
  refine ⟨trail ++ rest, ?_, Text.trimStart_append atEnd rest⟩
  have endedByBlank : ∀ char ∈ (trail ++ rest).head?, char.isDigit = false := by
    cases trail with
    | nil => exact ended
    | cons blank trail =>
      rintro char ⟨⟩
      exact not_isDigit_of_isBlank (atEnd blank (List.mem_cons_self ..))
  have bare : ∀ char ∈ (text.trim ++ (trail ++ rest)).head?, isBlank char = false := by
    have first := shaped.trimmed.first
    generalize text.trim = core at shaped first ⊢
    cases shaped
    exact first
  have spelled : text ++ rest = lead ++ (text.trim ++ (trail ++ rest)) := by
    conv => lhs; rw [split]
    simp only [List.append_assoc]
  rw [spelled, Text.trimStart_append atStart, Text.trimStart_eq_self bare]
  exact spanReference?_append shaped endedByBlank

/-- No operator goes on into a reference. -/
theorem not_isOperatorChar_of_shaped {text : Text} (shaped : Reference.Shaped text.trim) :
    ∀ char ∈ text.head?, isOperatorChar char = false := by
  obtain ⟨lead, trail, atStart, -, split⟩ := text.exists_blanks_trim
  rw [split]
  cases lead with
  | cons blank lead =>
    rintro char ⟨⟩
    refine Bool.eq_false_iff.mpr fun isOperator => ?_
    have isBlank := atStart blank (List.mem_cons_self ..)
    rw [not_isBlank_of_isOperatorChar isOperator] at isBlank
    contradiction
  | nil =>
    generalize text.trim = core at shaped ⊢
    cases shaped with
    | @mk letter digits alpha =>
      rintro char ⟨⟩
      refine Bool.eq_false_iff.mpr fun isOperator => ?_
      rw [not_isAlpha_of_isOperatorChar isOperator] at alpha
      contradiction

/-- A text that is put together from two references and an operator falls into these again. -/
theorem parts?_append {left operator right : Text} (atLeft : Reference.Shaped left.trim)
    (isOperator : Operator operator) (atRight : Reference.Shaped right.trim) :
    parts? (left ++ operator ++ right) = some (left.trim, operator, right.trim) := by
  obtain ⟨first, isFirst, firstOperator⟩ := isOperator.head right
  have head {P : Char → Prop} (holds : P first) : ∀ char ∈ (operator ++ right).head?, P char := by
    intro char isHead
    rwa [← Option.some.inj (isFirst.symm.trans isHead)]
  have afterOperator := not_isOperatorChar_of_shaped atRight
  obtain ⟨rest, readLeft, restLeft⟩ := spanReference?_trimStart atLeft (operator ++ right)
    (head (not_isDigit_of_isOperatorChar firstOperator))
  rw [Text.trimStart_eq_self (head (not_isBlank_of_isOperatorChar firstOperator))] at restLeft
  obtain ⟨last, readRight, restRight⟩ := spanReference?_trimStart atRight [] (by simp)
  rw [List.append_nil] at readRight
  rw [parts?, List.append_assoc, readLeft]
  simp only [Option.bind_eq_bind, Option.bind_some, restLeft,
    Text.takeWhile_append_of_ended isOperator.allOperators afterOperator,
    Text.dropWhile_append_of_ended isOperator.allOperators afterOperator, readRight, restRight]
  simp [isOperator.nonempty, Text.trimStart]

/-- A reference alone is no condition. -/
theorem parts?_of_shaped {text : Text} (shaped : Reference.Shaped text.trim) :
    parts? text = none := by
  obtain ⟨rest, read, nothing⟩ := spanReference?_trimStart shaped [] (by simp)
  rw [List.append_nil] at read
  rw [parts?, read]
  simp only [Option.bind_eq_bind, Option.bind_some, nothing]
  rfl

theorem parse_append {left operator right : Text} (atLeft : Reference.Shaped left.trim)
    (isOperator : Operator operator) (atRight : Reference.Shaped right.trim) :
    parse (left ++ operator ++ right) = match Comparison.ofText? operator with
      | none => .error (.malformedCondition (left ++ operator ++ right))
      | some comparison => do
        let left ← Reference.resolve left.trim
        let right ← Reference.resolve right.trim
        return { left, comparison, right } := by
  have cut := parts?_append atLeft isOperator atRight
  cases named : Comparison.ofText? operator <;> simp only [parse, cut, named]

/-- A comparison between two spelled references is read as the condition that it spells. -/
theorem parse_spelling {first second : Reference} {left right : Text}
    (atLeft : Reference.Spelling first left) (comparison : Comparison)
    (atRight : Reference.Spelling second right) :
    parse (left ++ comparison.text ++ right) = .ok ⟨first, comparison, second⟩ := by
  have resolved {reference : Reference} {text : Text} (spelling : Reference.Spelling reference text) :
      Reference.resolve text.trim = .ok reference := by
    rwa [Reference.resolve_trim_eq_ok_iff, Reference.resolve_eq_ok_iff_spelling]
  rw [parse_append atLeft.shaped_trim (operator_text comparison) atRight.shaped_trim,
    Comparison.ofText?_text]
  change (do
    let left ← Reference.resolve left.trim
    let right ← Reference.resolve right.trim
    return { left, comparison, right } : Except Fault Condition) = _
  rw [resolved atLeft, resolved atRight]
  rfl

end Condition

end FlatSheet
