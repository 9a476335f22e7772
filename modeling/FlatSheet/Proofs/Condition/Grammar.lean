import FlatSheet.Proofs.Condition.Parsing
import FlatSheet.Proofs.Traversal

/-! # What a condition is

A condition is a reference, a run of operator characters and a reference, with blanks around the
three parts. A text is cut into such parts in at most one way. It is a condition when the run is one
of the six operators and both references have a row; the rows are looked at last.
-/

namespace FlatSheet

namespace Comparison

/-- The relation of two columns that a comparison is about. -/
def Relates : Comparison → Nat → Nat → Prop
  | .equal, left, right => left = right
  | .less, left, right => left < right
  | .greater, left, right => left > right
  | .atLeast, left, right => left ≥ right
  | .atMost, left, right => left ≤ right
  | .different, left, right => left ≠ right

theorem holds_iff (comparison : Comparison) (left right : Nat) :
    comparison.holds left right = true ↔ comparison.Relates left right := by
  cases comparison <;> simp [holds, Relates]

/-- An operator writes at most one comparison. -/
theorem ofText?_eq_some_iff (operator : Text) (comparison : Comparison) :
    ofText? operator = some comparison ↔ comparison.text = operator := by
  constructor
  · intro found
    simpa using List.find?_some found
  · rintro rfl
    exact ofText?_text comparison

end Comparison

namespace Condition

/-- A text is cut into two references in shape and a run of operator characters, without the blanks
around the three parts. -/
inductive Cut : Text → Text → Text → Text → Prop
  | mk {lead left before operator after right trail : Text} (atStart : lead.AllBlank)
      (leftShaped : Reference.Shaped left) (beforeBlank : before.AllBlank)
      (isOperator : Operator operator) (afterBlank : after.AllBlank)
      (rightShaped : Reference.Shaped right) (atEnd : trail.AllBlank) :
      Cut (lead ++ left ++ before ++ operator ++ (after ++ right ++ trail)) left operator right

/-- Why a text is no condition. -/
inductive Unread (text : Text) : Fault → Prop
  | malformed (uncut : ∀ left comparison right, ¬Cut text left (Comparison.text comparison) right) :
      Unread text (.malformedCondition text)
  | left {left right : Text} {comparison : Comparison} (cut : Cut text left comparison.text right)
      (none : ∀ reference, ¬Reference.Spelling reference left) :
      Unread text (.invalidReference left)
  | right {left right : Text} {comparison : Comparison} {first : Reference}
      (cut : Cut text left comparison.text right) (spelled : Reference.Spelling first left)
      (none : ∀ reference, ¬Reference.Spelling reference right) :
      Unread text (.invalidReference right)

private theorem spanReference?_eq_some {text reference rest : Text}
    (read : spanReference? text = some (reference, rest)) :
    Reference.Shaped reference ∧ text = reference ++ rest := by
  cases text with
  | nil => contradiction
  | cons letter more =>
    rw [spanReference?] at read
    obtain ⟨shaped, same⟩ := Option.ite_none_right_eq_some.mp read
    obtain ⟨rfl, rfl⟩ := Prod.mk.inj (Option.some.inj same)
    simp only [Bool.and_eq_true, Bool.not_eq_true', List.isEmpty_eq_false_iff] at shaped
    refine ⟨.mk shaped.1 shaped.2 fun digit member => List.mem_takeWhile_imp member, ?_⟩
    exact congrArg (letter :: ·) List.takeWhile_append_dropWhile.symm

/-- The parts of a text are the only ones into which it can be cut. -/
theorem parts?_eq_some_iff (text left operator right : Text) :
    parts? text = some (left, operator, right) ↔ Cut text left operator right := by
  constructor
  · intro read
    simp only [parts?, Option.bind_eq_bind, Option.bind_eq_some_iff] at read
    obtain ⟨⟨first, behind⟩, readFirst, ⟨second, rest⟩, readSecond, parts⟩ := read
    obtain ⟨complete, same⟩ := Option.ite_none_left_eq_some.mp parts
    obtain ⟨rfl, rfl, rfl⟩ : first = left ∧ behind.trimStart.takeWhile isOperatorChar = operator ∧
        second = right := by simpa using same
    simp only [Bool.or_eq_true, Bool.not_eq_true', not_or, Bool.not_eq_false,
      List.isEmpty_iff] at complete
    obtain ⟨leftShaped, front⟩ := spanReference?_eq_some readFirst
    obtain ⟨rightShaped, back⟩ := spanReference?_eq_some readSecond
    obtain ⟨lead, atStart, splitText⟩ := text.exists_append_trimStart
    obtain ⟨before, beforeBlank, splitBehind⟩ := behind.exists_append_trimStart
    obtain ⟨after, afterBlank, splitAfter⟩ :=
      Text.exists_append_trimStart (behind.trimStart.dropWhile isOperatorChar)
    have isOperator : Operator (behind.trimStart.takeWhile isOperatorChar) :=
      ⟨complete.1, fun char member => List.mem_takeWhile_imp member⟩
    have atEnd : rest.AllBlank := List.dropWhile_eq_nil_iff.mp complete.2
    have cut := Cut.mk atStart leftShaped beforeBlank isOperator afterBlank rightShaped atEnd
    have spelled := calc
      text = lead ++ (first ++ behind) := by rw [← front, ← splitText]
      _ = lead ++ (first ++ (before ++ (behind.trimStart.takeWhile isOperatorChar ++
          (after ++ (second ++ rest))))) := by
        rw [← back, ← splitAfter, List.takeWhile_append_dropWhile, ← splitBehind]
      _ = lead ++ first ++ before ++ behind.trimStart.takeWhile isOperatorChar ++
          (after ++ second ++ rest) := by simp only [List.append_assoc]
    rwa [← spelled] at cut
  · rintro ⟨atStart, leftShaped, beforeBlank, isOperator, afterBlank, rightShaped, atEnd⟩
    have leftTrim := Text.trim_eq_of_blanks atStart leftShaped.trimmed beforeBlank
    have rightTrim := Text.trim_eq_of_blanks afterBlank rightShaped.trimmed atEnd
    rw [← leftTrim] at leftShaped
    rw [← rightTrim] at rightShaped
    rw [parts?_append leftShaped isOperator rightShaped, leftTrim, rightTrim]

section

variable {text left right : Text} {comparison : Comparison}

theorem parse_of_cut (cut : Cut text left comparison.text right) :
    parse text = do
      let left ← Reference.resolve left
      let right ← Reference.resolve right
      return { left, comparison, right } := by
  simp only [parse, (parts?_eq_some_iff ..).mpr cut, Comparison.ofText?_text]

theorem parse_of_uncut
    (uncut : ∀ left comparison right, ¬Cut text left (Comparison.text comparison) right) :
    parse text = .error (.malformedCondition text) := by
  rw [parse]
  split
  · rfl
  · next left operator right parts =>
    split
    · rfl
    · next comparison named =>
      obtain rfl := (Comparison.ofText?_eq_some_iff ..).mp named
      exact absurd ((parts?_eq_some_iff ..).mp parts) (uncut left comparison right)

end

/-- Every text is cut into spellings of two references and an operator, or one of the causes why it
is no condition applies. -/
theorem read_or_unread (text : Text) :
    (∃ (condition : Condition) (left right : Text),
      Cut text left condition.comparison.text right ∧
      Reference.Spelling condition.left left ∧ Reference.Spelling condition.right right) ∨
    ∃ fault, Unread text fault := by
  by_cases cuts : ∃ left comparison right, Cut text left (Comparison.text comparison) right
  · obtain ⟨left, comparison, right, cut⟩ := cuts
    by_cases atLeft : ∃ reference, Reference.Spelling reference left
    · obtain ⟨first, atLeft⟩ := atLeft
      by_cases atRight : ∃ reference, Reference.Spelling reference right
      · obtain ⟨second, atRight⟩ := atRight
        exact .inl ⟨⟨first, comparison, second⟩, left, right, cut, atLeft, atRight⟩
      · exact .inr ⟨_, .right cut atLeft (not_exists.mp atRight)⟩
    · exact .inr ⟨_, .left cut (not_exists.mp atLeft)⟩
  · exact .inr ⟨_, .malformed fun left comparison right cut => cuts ⟨left, comparison, right, cut⟩⟩

theorem parse_of_spellings {text left right : Text} {condition : Condition}
    (cut : Cut text left condition.comparison.text right)
    (atLeft : Reference.Spelling condition.left left)
    (atRight : Reference.Spelling condition.right right) : parse text = .ok condition := by
  rw [parse_of_cut cut, (Reference.resolve_eq_ok_iff_spelling ..).mpr atLeft,
    (Reference.resolve_eq_ok_iff_spelling ..).mpr atRight]
  rfl

theorem parse_of_unread {text : Text} {fault : Fault} (unread : Unread text fault) :
    parse text = .error fault := by
  cases unread with
  | malformed uncut => exact parse_of_uncut uncut
  | @left left right comparison cut none =>
    have unresolved := (Reference.resolve_eq_error_iff_spelling left _).mpr ⟨none, rfl⟩
    rw [parse_of_cut cut]
    exact (Traversal.bind_eq_error_iff ..).mpr (.inl unresolved)
  | @right left right comparison first cut spelled none =>
    have resolved := (Reference.resolve_eq_ok_iff_spelling ..).mpr spelled
    have unresolved := (Reference.resolve_eq_error_iff_spelling right _).mpr ⟨none, rfl⟩
    rw [parse_of_cut cut]
    refine (Traversal.bind_eq_error_iff ..).mpr (.inr ⟨first, resolved, ?_⟩)
    exact (Traversal.bind_eq_error_iff ..).mpr (.inl unresolved)

/-- A text is a condition exactly when it is cut into spellings of the two references and the
operator, and otherwise the fault is the one cause that applies. -/
theorem parse_iff (text : Text) :
    (∀ condition, parse text = .ok condition ↔ ∃ left right,
      Cut text left condition.comparison.text right ∧
      Reference.Spelling condition.left left ∧ Reference.Spelling condition.right right) ∧
    ∀ fault, parse text = .error fault ↔ Unread text fault := by
  refine Traversal.eq_iff_of_covered ?_ (fun _ => parse_of_unread) (read_or_unread text)
  rintro condition ⟨left, right, cut, atLeft, atRight⟩
  exact parse_of_spellings cut atLeft atRight

end Condition

end FlatSheet
