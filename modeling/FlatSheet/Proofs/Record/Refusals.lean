import FlatSheet.Proofs.Number.Nonfinite
import FlatSheet.Proofs.Record.Operands

/-! # Why a formula has no operands

A formula reads from left to right and stops at the first thing that is wrong. Of a reference that
is the text itself, then its column, then the cell in the column. The ends of a range are resolved
and compared before any cell is looked at. The relations below have one constructor for each cause,
which says what has to be right before the cause counts, so at most one of them applies. A formula
whose references and cells are all right is its function applied to the numbers in them.
-/

namespace FlatSheet

/-- Two texts that resolve to the ends of a range, in order. -/
structure Reference.Spans (start stop : Text) (first last : Reference) : Prop where
  atStart : Reference.resolve start = .ok first
  atStop : Reference.resolve stop = .ok last
  columns : first.column ≤ last.column
  rows : first.row ≤ last.row

namespace Record

/-- A text refers to a cell of the record that holds a number. -/
def Holds (record : Record) (text : Text) (value : Float) : Prop :=
  ∃ reference, Reference.resolve text = .ok reference ∧
    record.numberAt? reference.column = some value

/-- Why a text does not refer to a number. -/
inductive Unread (record : Record) (text : Text) : Fault → Prop
  | unresolved (none : ∀ reference, Reference.resolve text ≠ .ok reference) :
      Unread record text (.invalidReference text)
  | outside {reference : Reference} (resolved : Reference.resolve text = .ok reference)
      (outside : record.size ≤ reference.column) :
      Unread record text (.outOfBounds reference record.size)
  | notNumeric {reference : Reference} {cell : Text}
      (resolved : Reference.resolve text = .ok reference)
      (present : record.cell? reference.column = some cell) (noNumber : Number.parse? cell = none) :
      Unread record text (.notNumeric cell)

/-- Why a range has no operands. -/
inductive UnreadRange (record : Record) (start stop : Text) : Fault → Prop
  | start (none : ∀ reference, Reference.resolve start ≠ .ok reference) :
      UnreadRange record start stop (.invalidReference start)
  | stop {first : Reference} (atStart : Reference.resolve start = .ok first)
      (none : ∀ reference, Reference.resolve stop ≠ .ok reference) :
      UnreadRange record start stop (.invalidReference stop)
  | reversed {first last : Reference} (atStart : Reference.resolve start = .ok first)
      (atStop : Reference.resolve stop = .ok last)
      (reversed : last.column < first.column ∨ last.row < first.row) :
      UnreadRange record start stop (.reversedRange start stop)
  | outside {first last : Reference} (spans : Reference.Spans start stop first last)
      (outside : record.size ≤ last.column) :
      UnreadRange record start stop (.outOfBounds last record.size)
  | notNumeric {first last : Reference} {column : Nat} {cell : Text}
      (spans : Reference.Spans start stop first last) (inside : last.column < record.size)
      (member : column ∈ first.columnsTo last) (present : record.cell? column = some cell)
      (noNumber : Number.parse? cell = none)
      (before : ∀ earlier ∈ first.columnsTo last, earlier < column →
        ∃ number, record.numberAt? earlier = some number) :
      UnreadRange record start stop (.notNumeric cell)

/-- Why a list has no operands. -/
inductive UnreadList (record : Record) (function : Builtin) : List Text → Fault → Prop
  | count {items : List Text} (other : items.length ≠ 2) :
      UnreadList record function items (.wrongCount function (.exactly 2) items.length)
  | first {first second : Text} {fault : Fault} (unread : record.Unread first fault) :
      UnreadList record function [first, second] fault
  | second {first second : Text} {value : Float} {fault : Fault} (holds : record.Holds first value)
      (noNumber : Number.parse? second = none) (unread : record.Unread second fault) :
      UnreadList record function [first, second] fault

/-- Why a formula that is not conditional has no operands. -/
inductive UnreadOperands (record : Record) (function : Builtin) : Arguments → Fault → Prop
  | range {start stop : Text} {fault : Fault} (unread : record.UnreadRange start stop fault) :
      UnreadOperands record function (.range start stop) fault
  | list {items : List Text} {fault : Fault} (unread : record.UnreadList function items fault) :
      UnreadOperands record function (.list items) fault
  | single {text : Text} {fault : Fault} (unread : record.Unread text fault) :
      UnreadOperands record function (.single text) fault

theorem number_eq_error_iff (cell : Text) (fault : Fault) :
    number cell = .error fault ↔ Number.parse? cell = none ∧ fault = .notNumeric cell := by
  cases parsed : Number.parse? cell <;> simp [number, parsed, eq_comm]

theorem valueAt_eq_error_iff (record : Record) (text : Text) (fault : Fault) :
    record.valueAt text = .error fault ↔ record.Unread text fault := by
  constructor
  · intro failed
    rcases (Traversal.bind_eq_error_iff ..).mp failed with unresolved | ⟨reference, resolved, failed⟩
    · obtain ⟨none, rfl⟩ := (Reference.resolve_eq_error_iff ..).mp unresolved
      exact .unresolved none
    · cases present : record.cell? reference.column with
      | none =>
        simp only [present, Except.error.injEq] at failed
        exact failed ▸ .outside resolved (Array.getElem?_eq_none_iff.mp present)
      | some cell =>
        simp only [present, number_eq_error_iff] at failed
        obtain ⟨noNumber, rfl⟩ := failed
        exact .notNumeric resolved present noNumber
  · intro unread
    cases unread with
    | unresolved none =>
      exact (Traversal.bind_eq_error_iff ..).mpr
        (.inl ((Reference.resolve_eq_error_iff ..).mpr ⟨none, rfl⟩))
    | outside resolved outside =>
      rw [valueAt_of_resolve record resolved, cell?, Array.getElem?_eq_none outside]
    | notNumeric resolved present noNumber =>
      rw [valueAt_of_resolve record resolved, present]
      exact (number_eq_error_iff ..).mpr ⟨noNumber, rfl⟩

private theorem operand_eq_ok_iff (record : Record) (text : Text) (value : Float) :
    record.operand text = .ok value ↔
      Number.parse? text = some value ∨ record.Holds text value := by
  cases parsed : Number.parse? text with
  | some number =>
    have unheld : ¬record.Holds text value := by
      rintro ⟨reference, resolved, -⟩
      rw [Reference.parse?_number_eq_none resolved] at parsed
      contradiction
    simp [operand_of_parse? record parsed, unheld]
  | none => simp [operand, parsed, valueAt_eq_ok_iff, Holds]

private theorem operand_eq_error_iff (record : Record) (text : Text) (fault : Fault) :
    record.operand text = .error fault ↔ Number.parse? text = none ∧ record.Unread text fault := by
  cases parsed : Number.parse? text with
  | some number => simp [operand_of_parse? record parsed]
  | none => simp [operand, parsed, valueAt_eq_error_iff]

/-- A slice has the cells of its columns one by one. -/
theorem getElem?_of_slice? {record : Record} {start stop : Nat} {cells : List Text}
    (sliced : record.slice? start stop = some cells) {offset : Nat} (inside : start + offset ≤ stop) :
    cells[offset]? = record.cell? (start + offset) := by
  obtain ⟨-, -, columns⟩ := (slice?_eq_some_iff ..).mp sliced
  have atOffset := congrArg (fun held => held[offset]?) columns
  have bound : offset < stop + 1 - start := by omega
  simp only [List.getElem?_map, List.getElem?_range' bound, Nat.one_mul, Option.map_some] at atOffset
  obtain ⟨cell, present, same⟩ := Option.map_eq_some_iff.mp atOffset.symm
  rw [present, same]

/-- The first cell of a slice that is no number is that of the lowest column without a number. A
place in the slice and a column of the record differ by the first column. -/
theorem mapM_number_eq_error_iff {record : Record} {first last : Reference} {cells : List Text}
    (sliced : record.slice? first.column last.column = some cells) (fault : Fault) :
    cells.mapM number = .error fault ↔ ∃ column ∈ first.columnsTo last, ∃ cell,
      record.cell? column = some cell ∧ Number.parse? cell = none ∧ fault = .notNumeric cell ∧
      ∀ earlier ∈ first.columnsTo last, earlier < column →
        ∃ number, record.numberAt? earlier = some number := by
  obtain ⟨-, -, columns⟩ := (slice?_eq_some_iff ..).mp sliced
  have length : cells.length = last.column + 1 - first.column := by
    simpa using (congrArg List.length columns).symm
  have numberAt {offset : Nat} {cell : Text} (present : cells[offset]? = some cell)
      (inside : first.column + offset ≤ last.column) :
      record.numberAt? (first.column + offset) = Number.parse? cell := by
    rw [numberAt?, ← getElem?_of_slice? sliced inside, present, Option.bind_some]
  simp only [Traversal.mapM_eq_error_iff, Reference.mem_columnsTo_iff, number_eq_error_iff,
    number_eq_ok_iff]
  constructor
  · rintro ⟨offset, cell, present, ⟨noNumber, rfl⟩, before⟩
    have bound := (List.getElem?_eq_some_iff.mp present).1
    refine ⟨first.column + offset, by omega, cell, ?_, noNumber, rfl, ?_⟩
    · rw [← getElem?_of_slice? sliced (by omega), present]
    · rintro earlier ⟨low, -⟩ below
      obtain ⟨distance, rfl⟩ := Nat.exists_eq_add_of_le low
      have inside : distance < cells.length := by omega
      have atEarlier := List.getElem?_eq_getElem inside
      rw [numberAt atEarlier (by omega)]
      exact before distance (by omega) _ atEarlier
  · rintro ⟨column, ⟨low, high⟩, cell, present, noNumber, rfl, before⟩
    obtain ⟨offset, rfl⟩ := Nat.exists_eq_add_of_le low
    refine ⟨offset, cell, ?_, ⟨noNumber, rfl⟩, ?_⟩
    · rw [getElem?_of_slice? sliced high, present]
    · intro earlier below other atEarlier
      rw [← numberAt atEarlier (by omega)]
      exact before _ ⟨by omega, by omega⟩ (by omega)

private theorem rangeValues_of_spans (record : Record) {start stop : Text} {first last : Reference}
    (spans : Reference.Spans start stop first last) :
    record.rangeValues start stop = match record.slice? first.column last.column with
      | some cells => cells.mapM number
      | none => .error (.outOfBounds last record.size) := by
  have ordered : ¬(last.column < first.column ∨ last.row < first.row) := by
    have := spans.columns
    have := spans.rows
    omega
  rw [rangeValues, spans.atStart, spans.atStop]
  exact if_neg (by simpa using ordered)

theorem rangeValues_eq_error_iff (record : Record) (start stop : Text) (fault : Fault) :
    record.rangeValues start stop = .error fault ↔ record.UnreadRange start stop fault := by
  constructor
  · intro failed
    rcases (Traversal.bind_eq_error_iff ..).mp failed with unresolved | ⟨first, atStart, onward⟩
    · obtain ⟨none, rfl⟩ := (Reference.resolve_eq_error_iff ..).mp unresolved
      exact .start none
    rcases (Traversal.bind_eq_error_iff ..).mp onward with unresolved | ⟨last, atStop, compared⟩
    · obtain ⟨none, rfl⟩ := (Reference.resolve_eq_error_iff ..).mp unresolved
      exact .stop atStart none
    by_cases reversed : last.column < first.column ∨ last.row < first.row
    · rw [if_pos (by simpa using reversed)] at compared
      exact Except.error.inj compared ▸ .reversed atStart atStop reversed
    · have spans : Reference.Spans start stop first last :=
        ⟨atStart, atStop, by omega, by omega⟩
      rw [rangeValues_of_spans record spans] at failed
      cases sliced : record.slice? first.column last.column with
      | none =>
        rw [sliced] at failed
        exact Except.error.inj failed ▸
          .outside spans ((slice?_eq_none_iff record spans.columns).mp sliced)
      | some cells =>
        rw [sliced] at failed
        obtain ⟨column, member, cell, present, noNumber, rfl, before⟩ :=
          (mapM_number_eq_error_iff sliced fault).mp failed
        have inside := ((slice?_eq_some_iff ..).mp sliced).2.1
        exact .notNumeric spans inside member present noNumber before
  · intro unread
    cases unread with
    | start none =>
      have unresolved := (Reference.resolve_eq_error_iff start _).mpr ⟨none, rfl⟩
      exact (Traversal.bind_eq_error_iff ..).mpr (.inl unresolved)
    | @stop first atStart none =>
      have unresolved := (Reference.resolve_eq_error_iff stop _).mpr ⟨none, rfl⟩
      refine (Traversal.bind_eq_error_iff ..).mpr (.inr ⟨first, atStart, ?_⟩)
      exact (Traversal.bind_eq_error_iff ..).mpr (.inl unresolved)
    | reversed atStart atStop reversed =>
      rw [rangeValues, atStart, atStop]
      exact if_pos (by simpa using reversed)
    | outside spans outside =>
      rw [rangeValues_of_spans record spans,
        (slice?_eq_none_iff record spans.columns).mpr outside]
    | @notNumeric first last column cell spans inside member present noNumber before =>
      rw [rangeValues_of_spans record spans]
      cases sliced : record.slice? first.column last.column with
      | none => exact absurd ((slice?_eq_none_iff record spans.columns).mp sliced) (by omega)
      | some cells =>
        exact (mapM_number_eq_error_iff sliced _).mpr
          ⟨column, member, cell, present, noNumber, rfl, before⟩

/-- A range has operands exactly where it spans columns of the record that all hold numbers. -/
theorem rangeValues_eq_ok_iff_spans (record : Record) (start stop : Text) (values : List Float) :
    record.rangeValues start stop = .ok values ↔ ∃ first last,
      Reference.Spans start stop first last ∧
      (first.columnsTo last).map record.numberAt? = values.map some := by
  rw [rangeValues_eq_ok_iff]
  constructor
  · rintro ⟨first, last, atStart, atStop, columns, rows, numbers⟩
    exact ⟨first, last, ⟨atStart, atStop, columns, rows⟩, numbers⟩
  · rintro ⟨first, last, spans, numbers⟩
    exact ⟨first, last, spans.atStart, spans.atStop, spans.columns, spans.rows, numbers⟩

/-- A range is its function applied to the numbers in its columns, one for each of them in their
order, with the size of the record. A range without such numbers is a fault, and which one it is does
not depend on the function: a text that is no reference, the first one before the second, then ends
out of order, wherever they are, then an end out of bounds, then the lowest column without a
number. -/
theorem evaluate_range_applies_or_unread (record : Record) (function : Builtin)
    (start stop : Text) :
    (∀ (first last : Reference) (values : List Float), Reference.Spans start stop first last →
      last.column < record.size → (first.columnsTo last).map record.numberAt? = values.map some →
      values.length = last.column - first.column + 1 ∧
        record.evaluate (.formula function (.range start stop)) =
          function.apply values record.size) ∧
    (∀ fault, record.UnreadRange start stop fault →
      record.evaluate (.formula function (.range start stop)) = .error fault) ∧
    ((∃ (first last : Reference) (values : List Float), Reference.Spans start stop first last ∧
      last.column < record.size ∧ (first.columnsTo last).map record.numberAt? = values.map some) ↔
        ∀ fault, ¬record.UnreadRange start stop fault) := by
  have applied := evaluate_formula record function (.range start stop) fun _ => nofun
  refine ⟨?_, ?_, ?_⟩
  · intro first last values spans inside numbers
    have read := (rangeValues_eq_ok_iff_spans ..).mpr ⟨first, last, spans, numbers⟩
    have length := congrArg List.length numbers
    simp only [List.length_map, Reference.columnsTo, List.length_range'] at length
    have := spans.columns
    refine ⟨by omega, ?_⟩
    rw [applied, operands, read]
    rfl
  · intro fault unread
    rw [applied, operands, (rangeValues_eq_error_iff ..).mpr unread]
    rfl
  · simp only [← rangeValues_eq_error_iff]
    refine .trans ?_ (Traversal.exists_eq_ok_iff _)
    constructor
    · rintro ⟨first, last, values, spans, -, numbers⟩
      exact ⟨values, (rangeValues_eq_ok_iff_spans ..).mpr ⟨first, last, spans, numbers⟩⟩
    · rintro ⟨values, read⟩
      obtain ⟨first, last, spans, numbers⟩ := (rangeValues_eq_ok_iff_spans ..).mp read
      exact ⟨first, last, values, spans, lt_size_of_numbers spans.columns numbers, numbers⟩

/-- A deviation over two of five cells, spelled in two cases, with a formula behind them. Rows in
the wrong order come before an end that is out of bounds, and of two cells without a number the one
in the lower column is the fault. -/
theorem evaluate_range_applies_or_unread_order :
    let record := ofCells ["x".toList, "6".toList, " -1.4e1".toList, "y".toList, "=AVG(b2:C10)".toList]
    let range (function : Builtin) (start stop : String) :=
      Content.formula function (.range start.toList stop.toList)
    record.evaluate (range .stdev "b2" "C10") = Builtin.stdev.apply [6, -14] 5 ∧
      record.evaluate (range .sum "C5" "z1") = .error (.reversedRange "C5".toList "z1".toList) ∧
      record.evaluate (range .count "A1" "E1") = .error (.notNumeric "x".toList) ∧
      ∀ fault, ¬record.UnreadRange "b2".toList "C10".toList fault := by
  intro record range
  have spans : Reference.Spans "b2".toList "C10".toList ⟨1, 2⟩ ⟨2, 10⟩ :=
    ⟨rfl, rfl, by decide, by decide⟩
  have wide : Reference.Spans "A1".toList "E1".toList ⟨0, 1⟩ ⟨4, 1⟩ :=
    ⟨rfl, rfl, by decide, by decide⟩
  have numbers : (Reference.columnsTo ⟨1, 2⟩ ⟨2, 10⟩).map record.numberAt? =
      [6, -14].map some := by decide +kernel
  refine ⟨?_, ?_, ?_, ?_⟩
  · obtain ⟨applies, -, -⟩ := evaluate_range_applies_or_unread record .stdev "b2".toList "C10".toList
    exact (applies _ _ _ spans (by decide) numbers).2
  · obtain ⟨-, refuses, -⟩ := evaluate_range_applies_or_unread record .sum "C5".toList "z1".toList
    have first : Reference.resolve "C5".toList = .ok ⟨2, 5⟩ := rfl
    have last : Reference.resolve "z1".toList = .ok ⟨25, 1⟩ := rfl
    exact refuses _ (.reversed first last (.inr (by decide)))
  · obtain ⟨-, refuses, -⟩ := evaluate_range_applies_or_unread record .count "A1".toList "E1".toList
    have lowest : 0 ∈ Reference.columnsTo ⟨0, 1⟩ ⟨4, 1⟩ := by decide
    refine refuses _ (.notNumeric wide (by decide) lowest rfl (by decide +kernel) ?_)
    exact fun earlier _ below => absurd below (Nat.not_lt_zero earlier)
  · obtain ⟨-, -, exhaustive⟩ := evaluate_range_applies_or_unread record .sum "b2".toList "C10".toList
    exact exhaustive.mp ⟨_, _, _, spans, by decide, numbers⟩

theorem operands_of_length_ne (record : Record) (function : Builtin) {items : List Text}
    (other : items.length ≠ 2) :
    record.operands function (.list items) =
      .error (.wrongCount function (.exactly 2) items.length) := by
  rw [operands]
  rintro first second rfl
  exact other rfl

private theorem operands_list_eq_ok_iff (record : Record) (function : Builtin) (items : List Text)
    (values : List Float) :
    record.operands function (.list items) = .ok values ↔ ∃ first second left right,
      items = [first, second] ∧ record.Holds first left ∧
      (Number.parse? second = some right ∨ record.Holds second right) ∧ [left, right] = values := by
  by_cases pair : items.length = 2
  · obtain ⟨first, second, rfl⟩ := List.length_eq_two.mp pair
    simp only [operands_pair_eq_ok_iff, valueAt_eq_ok_iff, operand_eq_ok_iff]
    constructor
    · rintro ⟨left, right, holds, operand, rfl⟩
      exact ⟨first, second, left, right, rfl, holds, operand, rfl⟩
    · rintro ⟨_, _, left, right, ⟨⟩, holds, operand, rfl⟩
      exact ⟨left, right, holds, operand, rfl⟩
  · rw [operands_of_length_ne record function pair]
    simp only [reduceCtorEq, false_iff]
    rintro ⟨first, second, left, right, rfl, -⟩
    exact pair rfl

theorem operands_list_eq_error_iff (record : Record) (function : Builtin) (items : List Text)
    (fault : Fault) :
    record.operands function (.list items) = .error fault ↔
      record.UnreadList function items fault := by
  by_cases pair : items.length = 2
  · obtain ⟨first, second, rfl⟩ := List.length_eq_two.mp pair
    rw [operands, Traversal.bind_eq_error_iff, valueAt_eq_error_iff]
    simp only [Traversal.bind_eq_error_iff, operand_eq_error_iff, pure, Except.pure, reduceCtorEq,
      and_false, exists_const, or_false, valueAt_eq_ok_iff]
    constructor
    · rintro (unread | ⟨value, holds, noNumber, unread⟩)
      · exact .first unread
      · exact .second holds noNumber unread
    · intro unread
      cases unread with
      | count other => exact absurd rfl other
      | first unread => exact .inl unread
      | second holds noNumber unread => exact .inr ⟨_, holds, noNumber, unread⟩
  · rw [operands_of_length_ne record function pair]
    constructor
    · rintro ⟨⟩
      exact .count pair
    · intro unread
      cases unread with
      | count other => rfl
      | first unread => exact absurd rfl pair
      | second holds noNumber unread => exact absurd rfl pair

/-- All faults of reading operands. -/
theorem unreadOperands_of_operands {record : Record} {function : Builtin} {arguments : Arguments}
    {fault : Fault} (failed : record.operands function arguments = .error fault) :
    record.UnreadOperands function arguments fault := by
  cases arguments with
  | range start stop => exact .range ((rangeValues_eq_error_iff ..).mp failed)
  | list items => exact .list ((operands_list_eq_error_iff ..).mp failed)
  | single text =>
    rcases (Traversal.bind_eq_error_iff ..).mp failed with unread | ⟨value, -, ⟨⟩⟩
    exact .single ((valueAt_eq_error_iff ..).mp unread)

/-- A list is its function applied to two numbers in the order of the text, with the size of the
record: the number in the cell that the first argument refers to, and the second argument itself or
the number in the cell that it refers to. A list without these is a fault: the count of its arguments
comes first, and all that may be wrong with the first argument comes before the second one. A number
in the first place is no reference, and neither is a number in the second place that is not
finite. -/
theorem evaluate_list_applies_or_unread (record : Record) {function : Builtin}
    (unconditional : function ≠ .ifElse) :
    (∀ first second left right, record.Holds first left →
      (Number.parse? second = some right ∨ record.Holds second right) →
      record.evaluate (.formula function (.list [first, second])) =
        function.apply [left, right] record.size) ∧
    (∀ items fault, record.UnreadList function items fault →
      record.evaluate (.formula function (.list items)) = .error fault) ∧
    (∀ items, (∃ first second left right, items = [first, second] ∧ record.Holds first left ∧
      (Number.parse? second = some right ∨ record.Holds second right)) ↔
        ∀ fault, ¬record.UnreadList function items fault) ∧
    (∀ first second number, Number.parse? first = some number →
      record.evaluate (.formula function (.list [first, second])) =
        .error (.invalidReference first)) ∧
    (∀ first second left, record.Holds first left → Number.Nonfinite second →
      record.evaluate (.formula function (.list [first, second])) =
        .error (.invalidReference second)) := by
  have applied (items : List Text) :=
    evaluate_formula record function (.list items) (absurd · unconditional)
  have refuses (items : List Text) (fault : Fault) (unread : record.UnreadList function items fault) :
      record.evaluate (.formula function (.list items)) = .error fault := by
    rw [applied, (operands_list_eq_error_iff ..).mpr unread]
    rfl
  refine ⟨?_, refuses, ?_, ?_, ?_⟩
  · intro first second left right holds operand
    have read := (operands_list_eq_ok_iff record function _ _).mpr
      ⟨first, second, left, right, rfl, holds, operand, rfl⟩
    rw [applied, read]
    rfl
  · intro items
    simp only [← operands_list_eq_error_iff]
    refine .trans ?_ (Traversal.exists_eq_ok_iff _)
    constructor
    · rintro ⟨first, second, left, right, pair, holds, operand⟩
      exact ⟨_, (operands_list_eq_ok_iff ..).mpr
        ⟨first, second, left, right, pair, holds, operand, rfl⟩⟩
    · rintro ⟨values, read⟩
      obtain ⟨first, second, left, right, pair, holds, operand, -⟩ :=
        (operands_list_eq_ok_iff ..).mp read
      exact ⟨first, second, left, right, pair, holds, operand⟩
  · intro first second number parsed
    refine refuses _ _ (.first (.unresolved fun reference resolved => ?_))
    rw [Reference.parse?_number_eq_none resolved] at parsed
    contradiction
  · intro first second left holds nonfinite
    exact refuses _ _ (.second holds nonfinite.parse?_eq_none
      (.unresolved nonfinite.resolve_ne_ok))

/-- A remainder whose operands may not change places, and a numeral, a name and a sign that do not
make its second operand. A number in the first place is a fault before the column behind it is. -/
theorem evaluate_list_applies_or_unread_order :
    let record := ofCells ["5".toList, " -17e0".toList]
    let list (first second : String) := Content.formula .mod (.list [first.toList, second.toList])
    record.evaluate (list "b1" "A3") = .ok (-2) ∧
      record.evaluate (list "b1" "5") = .ok (-2) ∧
      record.evaluate (list "b1" "1e999") = .error (.invalidReference "1e999".toList) ∧
      record.evaluate (list "b1" " -Infinity") = .error (.invalidReference " -Infinity".toList) ∧
      record.evaluate (list "5" "C1") = .error (.invalidReference "5".toList) ∧
      record.evaluate (list "b1" "C1") = .error (.outOfBounds ⟨2, 1⟩ 2) ∧
      record.evaluate (.formula .mod (.list ["b1".toList])) =
        .error (.wrongCount .mod (.exactly 2) 1) ∧
      ∀ fault, ¬record.UnreadList .mod ["b1".toList, "A3".toList] fault := by
  intro record list
  have conditionless : Builtin.mod ≠ .ifElse := by decide
  obtain ⟨applies, refuses, exhaustive, numeral, nonfinite⟩ :=
    evaluate_list_applies_or_unread record conditionless
  have dividend : record.Holds "b1".toList (-17) := ⟨⟨1, 1⟩, rfl, by decide +kernel⟩
  have divisor : record.Holds "A3".toList 5 := ⟨⟨0, 3⟩, rfl, by decide +kernel⟩
  have remainder : Builtin.mod.apply [-17, 5] record.size = .ok (-2) := by decide +kernel
  have wide : Decimal.ofText? (Text.trim "1e999".toList) = some ⟨false, 1, 999⟩ := rfl
  have infinity : Text.trim " -Infinity".toList = ['-'] ++ "Infinity".toList := rfl
  refine ⟨?_, ?_, ?_, ?_, ?_, ?_, ?_, ?_⟩
  · rw [← remainder]
    exact applies _ _ _ _ dividend (.inr divisor)
  · rw [← remainder]
    exact applies _ _ _ _ dividend (.inl (by decide +kernel))
  · exact nonfinite _ _ _ dividend (.beyond wide (by decide +kernel))
  · exact nonfinite _ _ _ dividend (.named (by decide) (by decide) infinity)
  · exact numeral _ _ 5 (by decide +kernel)
  · have outside : Reference.resolve "C1".toList = .ok ⟨2, 1⟩ := rfl
    exact refuses _ _ (.second dividend (by decide +kernel) (.outside outside (by decide)))
  · exact refuses _ _ (.count (by decide))
  · exact (exhaustive _).mp ⟨_, _, _, _, rfl, dividend, .inr divisor⟩

end Record

end FlatSheet
