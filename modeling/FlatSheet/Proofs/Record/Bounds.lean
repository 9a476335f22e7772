import FlatSheet.Proofs.Record.Application
import FlatSheet.Proofs.Record.Conditional
import FlatSheet.Proofs.Record.Refusals

/-! # References out of bounds

A reference is out of bounds when the record has no cell in its column. The fault that says so names
a reference of the formula whose column is missing, also where a range of several columns could not
be read: its end has the highest column. It shows the reference by its own text, which is the
shortest spelling of it. So no such fault comes of references to columns that the record has, and
none at all in a record with a cell for every letter.
-/

namespace FlatSheet

/-- The texts in the places of a formula where references may stand. -/
def Content.mentioned : Content → List Text
  | .formula _ (.range start stop) => [start, stop]
  | .formula _ (.list items) => items
  | .formula _ (.single reference) => [reference]
  | .literal _ | .invalid => []

namespace Record

variable {record : Record} {reference : Reference} {size : Nat}

/-- Among some texts is a reference to a column that the record does not have. -/
def Misses (record : Record) (texts : List Text) (reference : Reference) : Prop :=
  record.size ≤ reference.column ∧ ∃ text ∈ texts, Reference.resolve text = .ok reference

private theorem Unread.misses {text : Text}
    (unread : record.Unread text (.outOfBounds reference size))
    {texts : List Text} (member : text ∈ texts) :
    size = record.size ∧ record.Misses texts reference := by
  cases unread with
  | outside resolved outside => exact ⟨rfl, outside, text, member, resolved⟩

private theorem UnreadOperands.misses {function : Builtin} {arguments : Arguments}
    (unread : record.UnreadOperands function arguments (.outOfBounds reference size)) :
    size = record.size ∧ record.Misses (Content.formula function arguments).mentioned reference := by
  cases unread with
  | @range start stop _ unread =>
    cases unread with
    | outside spans outside =>
      exact ⟨rfl, outside, stop, by simp [Content.mentioned], spans.atStop⟩
  | list unread =>
    cases unread with
    | first unread => exact unread.misses (by simp [Content.mentioned])
    | second holds noNumber unread => exact unread.misses (by simp [Content.mentioned])
  | single unread => exact unread.misses (List.mem_singleton_self _)

private theorem Undecided.ne_outOfBounds {items : List Text} :
    ¬Undecided items (.outOfBounds reference size) := by
  intro undecided
  cases undecided with
  | condition unread => cases unread

private theorem misses_of_evaluate {content : Content}
    (failed : record.evaluate content = .error (.outOfBounds reference size)) :
    size = record.size ∧ record.Misses content.mentioned reference := by
  cases content using Content.evaluationCases with
  | literal value => contradiction
  | conditional items => exact (Undecided.ne_outOfBounds (((conditional_iff _).2 _).mp failed)).elim
  | applied function arguments unconditional =>
    rw [record.evaluate_formula function arguments unconditional, Traversal.bind_eq_error_iff] at failed
    rcases failed with unread | ⟨operands, -, failed⟩
    · exact (unreadOperands_of_operands unread).misses
    · exact (function.apply_ne_error operands record.size (by simp) (by simp) failed).elim
  | invalid => contradiction

/-- A fault that a reference is out of bounds tells the size of the record, a column that the record
does not have, and a reference of the formula to this column in its shortest spelling: the capital
letter of one of the first 26 columns and a row without leading zeros, which resolves to the same
reference. There is no such fault when each reference that the formula mentions is to a column of the
record, so there is none in a record of 26 cells or more. -/
theorem outOfBounds_names_missing_column :
    (∀ (record : Record) content reference size,
      record.evaluate content = .error (.outOfBounds reference size) →
        size = record.size ∧ record.size ≤ reference.column ∧ reference.column < 26 ∧
        (∃ text ∈ content.mentioned, Reference.Spelling reference text) ∧
        reference.text =
          Char.ofNat ('A'.toNat + reference.column) :: Text.ofNumber reference.row ∧
        (Text.ofNumber reference.row).head? ≠ some '0' ∧
        Reference.resolve reference.text = .ok reference) ∧
    (∀ (record : Record) content,
      (∀ text ∈ content.mentioned, ∀ reference, Reference.resolve text = .ok reference →
        reference.column < record.size) →
      ∀ reference size, record.evaluate content ≠ .error (.outOfBounds reference size)) ∧
    (∀ (record : Record) content, 26 ≤ record.size →
      ∀ reference size, record.evaluate content ≠ .error (.outOfBounds reference size)) := by
  have within (record : Record) (content : Content)
      (present : ∀ text ∈ content.mentioned, ∀ reference, Reference.resolve text = .ok reference →
        reference.column < record.size) (reference : Reference) (size : Nat) :
      record.evaluate content ≠ .error (.outOfBounds reference size) := by
    intro failed
    obtain ⟨-, outside, text, member, resolved⟩ := misses_of_evaluate failed
    exact absurd (present text member reference resolved) (Nat.not_lt.mpr outside)
  refine ⟨?_, within, ?_⟩
  · intro record content reference size failed
    obtain ⟨sameSize, outside, text, member, resolved⟩ := misses_of_evaluate failed
    have inside := Reference.column_lt_of_resolve resolved
    have spelling := (Reference.resolve_eq_ok_iff_spelling ..).mp resolved
    have positive : 0 < reference.row := by
      cases spelling
      assumption
    refine ⟨sameSize, outside, inside, ⟨text, member, spelling⟩, ?_,
      Text.head?_ofNumber_ne_zero positive, ?_⟩
    · rw [Reference.text, Reference.letter, if_pos inside]
    · exact (Reference.resolve_eq_ok_iff_spelling ..).mpr spelling.spelling_text
  · intro record content full
    refine within record content fun text _ reference resolved => ?_
    have inside : reference.column < 26 := Reference.column_lt_of_resolve resolved
    omega

/-- The start of a range is the one column that the record has, and the fault names the end, spelled
in another way. Two references to that column are not out of bounds, whatever its cell is, and
neither is the range in a record with a cell for every letter. -/
theorem outOfBounds_names_missing_column_end :
    let record := ofCells ["x".toList]
    let range := Content.formula .sum (.range " a7".toList "z008\t".toList)
    let pair := Content.formula .max (.list ["A1".toList, "a99".toList])
    let full := ofCells (List.replicate 26 "x".toList)
    record.evaluate range = .error (.outOfBounds ⟨25, 8⟩ 1) ∧
      (∃ text ∈ range.mentioned, Reference.Spelling ⟨25, 8⟩ text) ∧
      Reference.text ⟨25, 8⟩ = "Z8".toList ∧
      Reference.resolve (Reference.text ⟨25, 8⟩) = .ok ⟨25, 8⟩ ∧
      (∀ text ∈ pair.mentioned, ∀ reference, Reference.resolve text = .ok reference →
        reference.column < record.size) ∧
      (∀ reference size, record.evaluate pair ≠ .error (.outOfBounds reference size)) ∧
      26 ≤ full.size ∧
      ∀ reference size, full.evaluate range ≠ .error (.outOfBounds reference size) := by
  intro record range pair full
  obtain ⟨honest, within, never⟩ := outOfBounds_names_missing_column
  have failed : record.evaluate range = .error (.outOfBounds ⟨25, 8⟩ 1) := rfl
  obtain ⟨-, -, -, mentioned, -, -, resolved⟩ := honest record range _ _ failed
  have present : ∀ text ∈ pair.mentioned, ∀ reference, Reference.resolve text = .ok reference →
      reference.column < record.size := by
    have first : Reference.resolve "A1".toList = .ok ⟨0, 1⟩ := rfl
    have second : Reference.resolve "a99".toList = .ok ⟨0, 99⟩ := rfl
    simp only [pair, Content.mentioned, List.forall_mem_cons, first, second]
    simp [record, size, ofCells]
  have letters : 26 ≤ full.size := by decide
  exact ⟨failed, mentioned, rfl, resolved, present, within record pair present, letters,
    never full range letters⟩

end Record

end FlatSheet
