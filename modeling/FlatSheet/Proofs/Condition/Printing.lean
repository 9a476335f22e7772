import FlatSheet.Proofs.Condition.Grammar
import FlatSheet.Proofs.Reference.Printing

/-! # The texts of conditions

A text is cut into a reference, a run of operator characters and a reference in at most one way, so
what is wrong with it does not depend on where one starts to look. The shape and the operator come
first, then the row of the left reference, then that of the right one. A condition that is written
out, with any blanks in it, is read back.
-/

namespace FlatSheet

private theorem Reference.Spelling.shaped_text {reference : Reference} {text : Text}
    (spelling : Spelling reference text) : Shaped reference.text := by
  have shaped := spelling.spelling_text.shaped_trim
  rwa [reference.trim_text] at shaped

namespace Condition

open Reference (HasRow)

variable {text left operator right : Text} {comparison : Comparison}

theorem Cut.unique (cut : Cut text left operator right) {left' operator' right' : Text}
    (other : Cut text left' operator' right') :
    left = left' ∧ operator = operator' ∧ right = right' := by
  have parts := (parts?_eq_some_iff ..).mpr cut
  rw [(parts?_eq_some_iff ..).mpr other] at parts
  simpa using parts.symm

theorem Cut.leftShaped (cut : Cut text left operator right) : Reference.Shaped left := by
  cases cut
  assumption

theorem Cut.rightShaped (cut : Cut text left operator right) : Reference.Shaped right := by
  cases cut
  assumption

/-- A run that is none of the six operators counts before the rows. -/
theorem Cut.parse_of_unknown (cut : Cut text left operator right)
    (unknown : ∀ comparison, Comparison.text comparison ≠ operator) :
    parse text = .error (.malformedCondition text) := by
  refine parse_of_uncut fun first comparison second other => unknown comparison ?_
  exact (other.unique cut).2.1

private theorem Cut.parse_of_left (cut : Cut text left comparison.text right)
    (noRow : ¬HasRow left) :
    parse text = .error (.invalidReference left) := by
  rw [cut.leftShaped.hasRow_iff, not_exists] at noRow
  exact parse_of_unread (.left cut noRow)

private theorem Cut.parse_of_right (cut : Cut text left comparison.text right) (row : HasRow left)
    (noRow : ¬HasRow right) : parse text = .error (.invalidReference right) := by
  obtain ⟨first, spelled⟩ := cut.leftShaped.hasRow_iff.mp row
  rw [cut.rightShaped.hasRow_iff, not_exists] at noRow
  exact parse_of_unread (.right cut spelled noRow)

/-- A condition is what the two references of a text resolve to, with the operator between them. -/
theorem parse_eq_ok_iff (text : Text) (condition : Condition) :
    parse text = .ok condition ↔ ∃ left right, Cut text left condition.comparison.text right ∧
      HasRow left ∧ HasRow right ∧ Reference.resolve left = .ok condition.left ∧
      Reference.resolve right = .ok condition.right := by
  rw [(parse_iff text).1]
  constructor
  · rintro ⟨left, right, cut, atLeft, atRight⟩
    exact ⟨left, right, cut, cut.leftShaped.hasRow_iff.mpr ⟨_, atLeft⟩,
      cut.rightShaped.hasRow_iff.mpr ⟨_, atRight⟩,
      (Reference.resolve_eq_ok_iff_spelling ..).mpr atLeft,
      (Reference.resolve_eq_ok_iff_spelling ..).mpr atRight⟩
  · rintro ⟨left, right, cut, -, -, atLeft, atRight⟩
    exact ⟨left, right, cut, (Reference.resolve_eq_ok_iff_spelling ..).mp atLeft,
      (Reference.resolve_eq_ok_iff_spelling ..).mp atRight⟩

/-- The parts of a condition with blanks around each. -/
def padded (condition : Condition) (lead before after trail : Text) : Text :=
  lead ++ condition.left.text ++ before ++ condition.comparison.text ++
    (after ++ condition.right.text ++ trail)

private theorem padded_nil (condition : Condition) :
    condition.padded [] [] [] [] = condition.text := by
  simp [padded, Condition.text]

private theorem parse_padded {condition : Condition} {lead before after trail : Text}
    (atLeft : Reference.Spelling condition.left condition.left.text)
    (atRight : Reference.Spelling condition.right condition.right.text) (atStart : lead.AllBlank)
    (beforeBlank : before.AllBlank) (afterBlank : after.AllBlank) (atEnd : trail.AllBlank) :
    parse (condition.padded lead before after trail) = .ok condition :=
  parse_of_spellings
    (.mk atStart atLeft.shaped_text beforeBlank (operator_text _) afterBlank atRight.shaped_text atEnd)
    atLeft atRight

/-- A text is a condition exactly when it is a reference, one of the six operators and a reference,
blanks around each aside, and both references have a row; the sides are what these two texts resolve
to. A text of that shape whose run of operator characters is no operator, and a text of any other
shape, are malformed, whatever the rows are. With an operator, the left reference is refused where it
has no row, else the right one, each by its own text. No text is of that shape in two ways. A
condition between lettered columns with rows is read back from its written form, without blanks or
with any blanks around the parts. -/
theorem parse_decides_by_shape_operator_rows :
    (∀ text condition, parse text = .ok condition ↔ ∃ left right,
      Cut text left condition.comparison.text right ∧ HasRow left ∧ HasRow right ∧
      Reference.resolve left = .ok condition.left ∧
      Reference.resolve right = .ok condition.right) ∧
    (∀ text left operator right, Cut text left operator right →
      (∀ comparison, Comparison.text comparison ≠ operator) →
      parse text = .error (.malformedCondition text)) ∧
    (∀ text, (∀ left operator right, ¬Cut text left operator right) →
      parse text = .error (.malformedCondition text)) ∧
    (∀ text left comparison right, Cut text left (Comparison.text comparison) right →
      ¬HasRow left → parse text = .error (.invalidReference left)) ∧
    (∀ text left comparison right, Cut text left (Comparison.text comparison) right →
      HasRow left → ¬HasRow right → parse text = .error (.invalidReference right)) ∧
    (∀ text left operator right left' operator' right', Cut text left operator right →
      Cut text left' operator' right' →
      left = left' ∧ operator = operator' ∧ right = right') ∧
    ∀ condition : Condition,
      (∀ reference ∈ [condition.left, condition.right],
        reference.column < 26 ∧ 1 ≤ reference.row ∧ reference.row ≤ 2 ^ 64 - 1) →
      parse condition.text = .ok condition ∧
      ∀ lead before after trail : Text, lead.AllBlank → before.AllBlank → after.AllBlank →
        trail.AllBlank → parse (condition.padded lead before after trail) = .ok condition := by
  refine ⟨parse_eq_ok_iff, fun _ _ _ _ => Cut.parse_of_unknown, ?_,
    fun _ _ _ _ => Cut.parse_of_left, fun _ _ _ _ => Cut.parse_of_right,
    fun _ _ _ _ _ _ _ cut other => cut.unique other, ?_⟩
  · exact fun text uncut => parse_of_uncut fun left comparison right => uncut left _ right
  · intro condition ranges
    have spelled : ∀ reference ∈ [condition.left, condition.right],
        Reference.Spelling reference reference.text := by
      intro reference member
      obtain ⟨inside, rows⟩ := ranges reference member
      exact reference.spelling_text_iff.mpr ⟨inside, (Reference.row_bounds_iff _).mp rows⟩
    have atLeft := spelled condition.left (by simp)
    have atRight := spelled condition.right (by simp)
    have blank : Text.AllBlank [] := List.forall_mem_nil _
    refine ⟨?_, fun _ _ _ _ => parse_padded atLeft atRight⟩
    rw [← condition.padded_nil]
    exact parse_padded atLeft atRight blank blank blank blank

/-- A run that is no operator and a blank inside an operator come before two rows that are too small
and too large. With an operator, the left row comes before the right one. The largest row in the last
column is read back between blanks of several kinds. -/
theorem parse_decides_by_shape_operator_rows_order :
    let foreign := "A0 =< b18446744073709551616".toList
    let parted := "A1 > = B1".toList
    let bothRows := " A00>=b18446744073709551616".toList
    let rightRow := "a1 != b18446744073709551616\n".toList
    let widest : Condition := ⟨⟨25, 18446744073709551615⟩, .atMost, ⟨0, 1⟩⟩
    let blanks : Text := "\t\u2003".toList
    parse foreign = .error (.malformedCondition foreign) ∧
      parse parted = .error (.malformedCondition parted) ∧
      parse bothRows = .error (.invalidReference "A00".toList) ∧
      parse rightRow = .error (.invalidReference "b18446744073709551616".toList) ∧
      (∀ left operator right, Cut rightRow left operator right →
        "a1".toList = left ∧ "!=".toList = operator ∧ "b18446744073709551616".toList = right) ∧
      parse widest.text = .ok widest ∧
      parse (widest.padded blanks [] blanks blanks) = .ok widest := by
  intro foreign parted bothRows rightRow widest blanks
  obtain ⟨-, unknown, uncut, atLeft, atRight, unique, written⟩ := parse_decides_by_shape_operator_rows
  have cut {text left operator right : Text} (parts : parts? text = some (left, operator, right)) :
      Cut text left operator right := (parts?_eq_some_iff ..).mp parts
  have cutForeign : Cut foreign "A0".toList "=<".toList "b18446744073709551616".toList :=
    cut (by decide +kernel)
  have cutBoth : Cut bothRows "A00".toList (Comparison.text .atLeast)
      "b18446744073709551616".toList := cut (by decide +kernel)
  have cutRight : Cut rightRow "a1".toList (Comparison.text .different)
      "b18446744073709551616".toList := cut (by decide +kernel)
  have noOperator : ∀ comparison, Comparison.text comparison ≠ "=<".toList := by
    rintro (_ | _) <;> decide
  have noCut : ∀ left operator right, ¬Cut parted left operator right := by
    intro left operator right other
    have parts := (parts?_eq_some_iff ..).mpr other
    rw [show parts? parted = none by decide +kernel] at parts
    contradiction
  have blank : blanks.AllBlank := List.all_eq_true.mp (by decide +kernel)
  obtain ⟨shown, padded⟩ := written widest (by decide)
  exact ⟨unknown _ _ _ _ cutForeign noOperator, uncut _ noCut,
    atLeft _ _ _ _ cutBoth (by decide +kernel),
    atRight _ _ _ _ cutRight (by decide +kernel) (by decide +kernel),
    fun _ _ _ => unique _ _ _ _ _ _ _ cutRight, shown,
    padded _ _ _ _ blank (List.forall_mem_nil _) blank blank⟩

end Condition

end FlatSheet
