import FlatSheet.Proofs.Condition.Grammar
import FlatSheet.Proofs.Record.Operands

/-! # Conditional formulas

A conditional formula has a condition and two branches. Its value is the leading integer of the
branch that the condition selects, and the other branch may be any text. The condition compares the
columns of its references, so no cell is read and the formula has the same value in every record. In
any form but this list the function has no value.
-/

namespace FlatSheet

/-- A text is a condition between two spelled references, and whether their columns compare so. -/
def Condition.Decides (text : Text) (holds : Bool) : Prop :=
  ∃ left comparison right first second, Cut text left (Comparison.text comparison) right ∧
    Reference.Spelling first left ∧ Reference.Spelling second right ∧
    (holds = true ↔ comparison.Relates first.column second.column)

theorem Condition.decides_iff (text : Text) (holds : Bool) :
    Decides text holds ↔ ∃ condition, parse text = .ok condition ∧ condition.holds = holds := by
  constructor
  · rintro ⟨left, comparison, right, first, second, cut, atLeft, atRight, same⟩
    refine ⟨⟨first, comparison, second⟩, parse_of_spellings cut atLeft atRight, ?_⟩
    exact Bool.eq_iff_iff.mpr ((comparison.holds_iff ..).trans same.symm)
  · rintro ⟨condition, read, rfl⟩
    obtain ⟨left, right, cut, atLeft, atRight⟩ := ((parse_iff text).1 condition).mp read
    exact ⟨left, condition.comparison, right, _, _, cut, atLeft, atRight,
      condition.comparison.holds_iff ..⟩

private theorem Condition.decides_or_unread (text : Text) :
    (∃ holds, Decides text holds) ∨ ∃ fault, Unread text fault := by
  rcases read_or_unread text with ⟨condition, left, right, cut, atLeft, atRight⟩ | unread
  · exact .inl ⟨condition.holds, left, condition.comparison, right, _, _, cut, atLeft, atRight,
      condition.comparison.holds_iff ..⟩
  · exact .inr unread

namespace Record

/-- Why the arguments of a conditional formula have no value. -/
inductive Undecided : List Text → Fault → Prop
  | count {items : List Text} (other : items.length ≠ 3) :
      Undecided items (.wrongCount .ifElse (.exactly 3) items.length)
  | condition {condition whenTrue whenFalse : Text} {fault : Fault}
      (unread : Condition.Unread condition fault) :
      Undecided [condition, whenTrue, whenFalse] fault
  | branch {condition whenTrue whenFalse branch : Text} {holds : Bool}
      (decides : Condition.Decides condition holds)
      (selected : branch = if holds then whenTrue else whenFalse)
      (noInteger : Number.integerPrefix? branch = none) :
      Undecided [condition, whenTrue, whenFalse] (.branchNotInteger branch)

private theorem conditional_of_length_ne {items : List Text} (other : items.length ≠ 3) :
    conditional items = .error (.wrongCount .ifElse (.exactly 3) items.length) := by
  rw [conditional]
  rintro condition whenTrue whenFalse rfl
  exact other rfl

theorem conditional_of_decides {condition : Text} {holds : Bool}
    (decides : Condition.Decides condition holds) (whenTrue whenFalse : Text) :
    conditional [condition, whenTrue, whenFalse] =
      match Number.integerPrefix? (if holds then whenTrue else whenFalse) with
      | some value => .ok value
      | none => .error (.branchNotInteger (if holds then whenTrue else whenFalse)) := by
  obtain ⟨parsed, read, rfl⟩ := (Condition.decides_iff ..).mp decides
  rw [conditional, read]
  rfl

private theorem conditional_of_unread {condition : Text} {fault : Fault}
    (unread : Condition.Unread condition fault) (whenTrue whenFalse : Text) :
    conditional [condition, whenTrue, whenFalse] = .error fault := by
  rw [conditional, Condition.parse_of_unread unread]
  rfl

/-- The arguments have a branch with an integer that the condition selects, or one of the causes why
they have no value applies. -/
theorem decided_or_undecided (items : List Text) :
    (∃ value condition whenTrue whenFalse holds, items = [condition, whenTrue, whenFalse] ∧
      Condition.Decides condition holds ∧
      Number.integerPrefix? (if holds then whenTrue else whenFalse) = some value) ∨
    ∃ fault, Undecided items fault := by
  by_cases three : items.length = 3
  · obtain ⟨condition, whenTrue, whenFalse, rfl⟩ := List.length_eq_three.mp three
    rcases Condition.decides_or_unread condition with ⟨holds, decides⟩ | ⟨fault, unread⟩
    · cases read : Number.integerPrefix? (if holds then whenTrue else whenFalse) with
      | some value => exact .inl ⟨value, condition, whenTrue, whenFalse, holds, rfl, decides, read⟩
      | none => exact .inr ⟨_, .branch decides rfl read⟩
    · exact .inr ⟨fault, .condition unread⟩
  · exact .inr ⟨_, .count three⟩

theorem conditional_iff (items : List Text) :
    (∀ value, conditional items = .ok value ↔ ∃ condition whenTrue whenFalse holds,
      items = [condition, whenTrue, whenFalse] ∧ Condition.Decides condition holds ∧
      Number.integerPrefix? (if holds then whenTrue else whenFalse) = some value) ∧
    ∀ fault, conditional items = .error fault ↔ Undecided items fault := by
  refine Traversal.eq_iff_of_covered ?_ ?_ (decided_or_undecided items)
  · rintro value ⟨condition, whenTrue, whenFalse, holds, rfl, decides, read⟩
    rw [conditional_of_decides decides, read]
  · intro fault undecided
    cases undecided with
    | count other => exact conditional_of_length_ne other
    | condition unread => exact conditional_of_unread unread _ _
    | branch decides selected noInteger =>
      rw [conditional_of_decides decides, ← selected, noInteger]

/-- The function has a value as a list of arguments only. -/
theorem evaluate_ifElse_ne_ok (record : Record) {arguments : Arguments}
    (unlisted : ∀ items, arguments ≠ .list items) (value : Float) :
    record.evaluate (.formula .ifElse arguments) ≠ .ok value := by
  rw [evaluate_formula record .ifElse arguments fun _ => unlisted, ne_eq, Traversal.bind_eq_ok_iff]
  rintro ⟨operands, -, ⟨⟩⟩

/-- A conditional formula has a value exactly when it has three arguments, the first is a condition
between two references, and the branch that the comparison of their columns selects starts with an
integer, which is the value. Otherwise it is a fault for the first of what is wrong: the count of the
arguments, the shape or the operator of the condition, the row of its left reference, that of its
right one, and the selected branch. Neither the record nor the other branch counts. With a range or a
single reference in the place of the list there is never a value. -/
theorem evaluate_conditional_decides :
    (∀ (record : Record) items value,
      record.evaluate (.formula .ifElse (.list items)) = .ok value ↔
        ∃ condition whenTrue whenFalse holds, items = [condition, whenTrue, whenFalse] ∧
          Condition.Decides condition holds ∧
          Number.integerPrefix? (if holds then whenTrue else whenFalse) = some value) ∧
    (∀ (record : Record) items fault,
      record.evaluate (.formula .ifElse (.list items)) = .error fault ↔ Undecided items fault) ∧
    (∀ (record other : Record) items, record.evaluate (.formula .ifElse (.list items)) =
      other.evaluate (.formula .ifElse (.list items))) ∧
    (∀ (record : Record) condition whenTrue whenFalse other, Condition.Decides condition true →
      record.evaluate (.formula .ifElse (.list [condition, whenTrue, whenFalse])) =
        record.evaluate (.formula .ifElse (.list [condition, whenTrue, other]))) ∧
    (∀ (record : Record) condition whenTrue whenFalse other, Condition.Decides condition false →
      record.evaluate (.formula .ifElse (.list [condition, whenTrue, whenFalse])) =
        record.evaluate (.formula .ifElse (.list [condition, other, whenFalse]))) ∧
    (∀ (record : Record) start stop value,
      record.evaluate (.formula .ifElse (.range start stop)) ≠ .ok value) ∧
    (∀ (record : Record) reference value,
      record.evaluate (.formula .ifElse (.single reference)) ≠ .ok value) := by
  refine ⟨fun _ items => (conditional_iff items).1, fun _ items => (conditional_iff items).2,
    fun _ _ _ => rfl, ?_, ?_, ?_, ?_⟩
  · intro record condition whenTrue whenFalse other decides
    rw [evaluate_conditional, evaluate_conditional, conditional_of_decides decides,
      conditional_of_decides decides]
    rfl
  · intro record condition whenTrue whenFalse other decides
    rw [evaluate_conditional, evaluate_conditional, conditional_of_decides decides,
      conditional_of_decides decides]
    rfl
  · exact fun record start stop => record.evaluate_ifElse_ne_ok (by simp)
  · exact fun record reference => record.evaluate_ifElse_ne_ok (by simp)

/-- The condition has blanks of several kinds in it and is between columns that the record does not
have. The branch that it does not select has no integer, and where it is selected it is the fault. A
row of zero counts only once the operator is known, and in the right reference only once the left
one has a row. -/
theorem evaluate_conditional_decides_blanks :
    let record := ofCells []
    let wide := "\t z007 <=\nB18446744073709551615"
    let choice (condition whenTrue whenFalse : String) :=
      Content.formula .ifElse (.list [condition.toList, whenTrue.toList, whenFalse.toList])
    Condition.Decides wide.toList false ∧
      record.evaluate (choice wide "x" " -3.9") = .ok (-3) ∧
      record.evaluate (choice wide "x" " -3.9") =
        (ofCells ["=1".toList]).evaluate (choice wide "=SUM(A1:A1)" " -3.9") ∧
      record.evaluate (choice "A1 != b1" "x" "1") = .error (.branchNotInteger "x".toList) ∧
      record.evaluate (choice "A0=<B0" "1" "1") = .error (.malformedCondition "A0=<B0".toList) ∧
      record.evaluate (choice "A0 = B0" "1" "1") = .error (.invalidReference "A0".toList) := by
  intro record wide choice
  obtain ⟨evaluates, refuses, unread, -, unselected, -, -⟩ := evaluate_conditional_decides
  have decides : Condition.Decides wide.toList false :=
    (Condition.decides_iff ..).mpr ⟨⟨⟨25, 7⟩, .atMost, ⟨1, 18446744073709551615⟩⟩,
      by decide +kernel, rfl⟩
  have differ : Condition.Decides "A1 != b1".toList true :=
    (Condition.decides_iff ..).mpr ⟨⟨⟨0, 1⟩, .different, ⟨1, 1⟩⟩, by decide +kernel, rfl⟩
  refine ⟨decides, ?_, ?_, ?_, ?_, ?_⟩
  · exact (evaluates record _ _).mpr ⟨_, _, _, false, rfl, decides, by decide +kernel⟩
  · exact (unselected record _ _ _ _ decides).trans (unread record _ _)
  · exact (refuses record _ _).mpr (.branch differ rfl (by decide +kernel))
  · exact (refuses record _ _).mpr
      (.condition (((Condition.parse_iff _).2 _).mp (by decide +kernel)))
  · exact (refuses record _ _).mpr
      (.condition (((Condition.parse_iff _).2 _).mp (by decide +kernel)))

end Record

end FlatSheet
