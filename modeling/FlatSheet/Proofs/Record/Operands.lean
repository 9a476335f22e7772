import FlatSheet.Proofs.Reference.Parsing
import FlatSheet.Proofs.Traversal
import FlatSheet.Record.Evaluation

/-! # Operands of a formula

A range, a list and a single reference come to their operands in different ways: by a slice of the
record, one argument at a time with a number allowed in the second place, and by one cell. Where the
three name the same columns they have the same operands, so the function is applied to the same
numbers.
-/

namespace FlatSheet

/-- The columns from one reference to another. -/
def Reference.columnsTo (first last : Reference) : List Nat :=
  List.range' first.column (last.column + 1 - first.column)

theorem Reference.mem_columnsTo_iff (first last : Reference) (column : Nat) :
    column ∈ first.columnsTo last ↔ first.column ≤ column ∧ column ≤ last.column := by
  rw [columnsTo, List.mem_range'_1]
  omega

namespace Record

/-- The number in a column, if the record has the column and its cell is a number. -/
def numberAt? (record : Record) (column : Nat) : Option Float :=
  (record.cell? column).bind Number.parse?

theorem lt_size_of_cell? {record : Record} {index : Nat} {cell : Text}
    (present : record.cell? index = some cell) : index < record.size :=
  (Array.getElem?_eq_some_iff.mp present).1

theorem numberAt?_eq_some_iff (record : Record) (column : Nat) (number : Float) :
    record.numberAt? column = some number ↔
      ∃ cell, record.cell? column = some cell ∧ Number.parse? cell = some number :=
  Option.bind_eq_some_iff

theorem lt_size_of_numberAt? {record : Record} {column : Nat} {number : Float}
    (found : record.numberAt? column = some number) : column < record.size := by
  obtain ⟨cell, present, -⟩ := (numberAt?_eq_some_iff record column number).mp found
  exact lt_size_of_cell? present

/-- Columns that hold the values in order hold one each. -/
theorem exists_numberAt?_of_mem {record : Record} {columns : List Nat} {values : List Float}
    (numbers : columns.map record.numberAt? = values.map some) {column : Nat}
    (member : column ∈ columns) : ∃ number ∈ values, record.numberAt? column = some number := by
  have held : record.numberAt? column ∈ values.map some := numbers ▸ List.mem_map_of_mem member
  obtain ⟨number, present, found⟩ := List.mem_map.mp held
  exact ⟨number, present, found.symm⟩

/-- Columns that all hold numbers are in the record, up to the last one. -/
theorem lt_size_of_numbers {record : Record} {first last : Reference} {values : List Float}
    (ordered : first.column ≤ last.column)
    (numbers : (first.columnsTo last).map record.numberAt? = values.map some) :
    last.column < record.size := by
  have atLast : last.column ∈ first.columnsTo last :=
    (first.mem_columnsTo_iff last _).mpr ⟨ordered, Nat.le_refl _⟩
  obtain ⟨number, -, found⟩ := exists_numberAt?_of_mem numbers atLast
  exact lt_size_of_numberAt? found

/-- A slice has the cells of its columns in order. -/
theorem slice?_eq_some_iff (record : Record) (start stop : Nat) (cells : List Text) :
    record.slice? start stop = some cells ↔ start ≤ stop + 1 ∧ stop < record.size ∧
      (List.range' start (stop + 1 - start)).map record.cell? = cells.map some := by
  by_cases guard : start ≤ stop + 1 ∧ stop < record.size
  · have columns : (List.range' start (stop + 1 - start)).map record.cell? =
        (record.cells.extract start (stop + 1)).toList.map some := by
      have bound : stop + 1 ≤ record.cells.size := guard.2
      apply List.ext_getElem?
      intro offset
      by_cases below : offset < stop + 1 - start
      · have present : start + offset < record.cells.size := by omega
        simp [cell?, below, present]
      · rw [List.getElem?_eq_none (by simpa using below), List.getElem?_eq_none]
        simp only [List.length_map, Array.length_toList, Array.size_extract]
        omega
    rw [slice?, if_pos (by simpa using guard), columns]
    generalize (record.cells.extract start (stop + 1)).toList = slice
    simp [guard, (List.map_injective_iff.mpr fun _ _ => Option.some.inj).eq_iff]
  · rw [slice?, if_neg (by simpa using guard)]
    simp only [reduceCtorEq, false_iff]
    exact fun both => guard ⟨both.1, both.2.1⟩

/-- A slice in order is there exactly when its end is. -/
theorem slice?_eq_none_iff (record : Record) {start stop : Nat} (ordered : start ≤ stop) :
    record.slice? start stop = none ↔ record.size ≤ stop := by
  rw [slice?]
  split
  · next guard =>
    simp only [Bool.and_eq_true, decide_eq_true_eq] at guard
    simp only [reduceCtorEq, false_iff]
    omega
  · next guard =>
    simp only [Bool.and_eq_true, decide_eq_true_eq] at guard
    simp only [true_iff]
    omega

private theorem slice?_self (record : Record) (index : Nat) :
    record.slice? index index = (record.cell? index).map fun cell => [cell] := by
  apply Option.ext
  intro cells
  rw [slice?_eq_some_iff, Nat.add_sub_cancel_left, List.range'_one, List.map_singleton]
  cases found : record.cell? index with
  | none => cases cells <;> simp
  | some cell =>
    have inside := lt_size_of_cell? found
    cases cells <;> simp [inside, eq_comm (a := cell)]

theorem number_eq_ok_iff (cell : Text) (value : Float) :
    number cell = .ok value ↔ Number.parse? cell = some value := by
  cases parsed : Number.parse? cell <;> simp [number, parsed]

private theorem mapM_number_eq_ok_iff (cells : List Text) (values : List Float) :
    cells.mapM number = .ok values ↔ cells.map Number.parse? = values.map some := by
  rw [Traversal.mapM_eq_ok_iff, ← List.forall₂_eq_eq_eq, ← List.forall₂_eq_eq_eq]
  simp only [List.forall₂_map_left_iff, List.forall₂_map_right_iff, number_eq_ok_iff]

theorem valueAt_of_resolve (record : Record) {text : Text} {reference : Reference}
    (resolved : Reference.resolve text = .ok reference) :
    record.valueAt text = match record.cell? reference.column with
      | some cell => number cell
      | none => .error (.outOfBounds reference record.size) := by
  rw [valueAt, resolved]
  rfl

theorem valueAt_eq_ok_iff_of_resolve (record : Record) {text : Text} {reference : Reference}
    (resolved : Reference.resolve text = .ok reference) (value : Float) :
    record.valueAt text = .ok value ↔ record.numberAt? reference.column = some value := by
  rw [valueAt_of_resolve record resolved]
  cases found : record.cell? reference.column <;> simp [numberAt?, found, number_eq_ok_iff]

theorem valueAt_eq_ok_iff (record : Record) (text : Text) (value : Float) :
    record.valueAt text = .ok value ↔ ∃ reference, Reference.resolve text = .ok reference ∧
      record.numberAt? reference.column = some value := by
  constructor
  · intro read
    obtain ⟨reference, resolved, -⟩ := (Traversal.bind_eq_ok_iff ..).mp read
    exact ⟨reference, resolved, (record.valueAt_eq_ok_iff_of_resolve resolved value).mp read⟩
  · rintro ⟨reference, resolved, found⟩
    exact (record.valueAt_eq_ok_iff_of_resolve resolved value).mpr found

/-- A reference in the second place is read like one in the first, because it is no number. -/
theorem operand_of_resolve (record : Record) {text : Text} {reference : Reference}
    (resolved : Reference.resolve text = .ok reference) :
    record.operand text = record.valueAt text := by
  rw [operand, Reference.parse?_number_eq_none resolved]

theorem operand_of_parse? (record : Record) {text : Text} {value : Float}
    (parsed : Number.parse? text = some value) : record.operand text = .ok value := by
  rw [operand, parsed]

/-- The cells of a slice are numbers exactly when its columns are. -/
theorem slice?_numbers_iff (record : Record) {first last : Reference}
    (ordered : first.column ≤ last.column) (values : List Float) :
    (∃ cells, record.slice? first.column last.column = some cells ∧
      cells.mapM number = .ok values) ↔
      (first.columnsTo last).map record.numberAt? = values.map some := by
  have numbers {cells : List Text}
      (sliced : record.slice? first.column last.column = some cells) :
      (first.columnsTo last).map record.numberAt? = cells.map Number.parse? := by
    obtain ⟨-, -, columns⟩ := (slice?_eq_some_iff record _ _ cells).mp sliced
    calc (first.columnsTo last).map record.numberAt?
        = ((first.columnsTo last).map record.cell?).map fun cell => cell.bind Number.parse? := by
          rw [List.map_map]
          rfl
      _ = (cells.map some).map fun cell => cell.bind Number.parse? := by
          rw [Reference.columnsTo, columns]
      _ = cells.map Number.parse? := by
          rw [List.map_map]
          rfl
  constructor
  · rintro ⟨cells, sliced, read⟩
    rw [numbers sliced, ← mapM_number_eq_ok_iff, read]
  · intro read
    have inside := lt_size_of_numbers ordered read
    have present : record.slice? first.column last.column ≠ none :=
      mt (slice?_eq_none_iff record ordered).mp (Nat.not_le.mpr inside)
    obtain ⟨cells, sliced⟩ := Option.ne_none_iff_exists'.mp present
    exact ⟨cells, sliced, by rwa [mapM_number_eq_ok_iff, ← numbers sliced]⟩

/-- A range has operands exactly when its ends are references in order and all columns from one to
the other are numbers. -/
theorem rangeValues_eq_ok_iff (record : Record) (start stop : Text) (values : List Float) :
    record.rangeValues start stop = .ok values ↔ ∃ first last,
      Reference.resolve start = .ok first ∧ Reference.resolve stop = .ok last ∧
      first.column ≤ last.column ∧ first.row ≤ last.row ∧
      (first.columnsTo last).map record.numberAt? = values.map some := by
  simp only [rangeValues, Traversal.bind_eq_ok_iff, exists_and_left]
  refine exists_congr fun first => and_congr_right fun _ => ?_
  refine exists_congr fun last => and_congr_right fun _ => ?_
  by_cases reversed : last.column < first.column ∨ last.row < first.row
  · rw [if_pos (by simpa using reversed)]
    simp only [reduceCtorEq, false_iff]
    omega
  · rw [if_neg (by simpa using reversed), ← slice?_numbers_iff record (by omega)]
    have ordered : first.column ≤ last.column ∧ first.row ≤ last.row := by omega
    cases sliced : record.slice? first.column last.column <;> simp [ordered]

theorem rangeValues_eq_ok_iff_of_resolve (record : Record) {start stop : Text}
    {first last : Reference} (atStart : Reference.resolve start = .ok first)
    (atStop : Reference.resolve stop = .ok last) (values : List Float) :
    record.rangeValues start stop = .ok values ↔ first.column ≤ last.column ∧
      first.row ≤ last.row ∧ (first.columnsTo last).map record.numberAt? = values.map some := by
  rw [rangeValues_eq_ok_iff]
  constructor
  · rintro ⟨left, right, sameLeft, sameRight, range⟩
    obtain rfl := Except.ok.inj (atStart.symm.trans sameLeft)
    obtain rfl := Except.ok.inj (atStop.symm.trans sameRight)
    exact range
  · intro range
    exact ⟨first, last, atStart, atStop, range⟩

theorem operands_pair_eq_ok_iff (record : Record) (function : Builtin) (first second : Text)
    (values : List Float) :
    record.operands function (.list [first, second]) = .ok values ↔ ∃ left right,
      record.valueAt first = .ok left ∧ record.operand second = .ok right ∧
      [left, right] = values := by
  simp only [operands, Traversal.bind_eq_ok_iff, pure, Except.pure, Except.ok.injEq]
  constructor
  · rintro ⟨left, atLeft, right, atRight, rfl⟩
    exact ⟨left, right, atLeft, atRight, rfl⟩
  · rintro ⟨left, right, atLeft, atRight, rfl⟩
    exact ⟨left, atLeft, right, atRight, rfl⟩

/-- A range of one column is read like the reference to it, faults included. -/
theorem rangeValues_self (record : Record) (text : Text) :
    record.rangeValues text text = record.valueAt text >>= fun value => pure [value] := by
  rw [rangeValues, valueAt]
  cases Reference.resolve text with
  | error fault => rfl
  | ok reference =>
    change (if _ then _ else _) = _
    rw [if_neg (by simp), slice?_self]
    change _ = (match record.cell? reference.column with
      | some cell => number cell
      | none => .error (.outOfBounds reference record.size)) >>= _
    cases record.cell? reference.column with
    | none => rfl
    | some cell => exact List.mapM_cons

/-- A range of two neighbouring columns has the operands that the list of its ends has. -/
theorem rangeValues_neighbours_eq_ok_iff (record : Record) (function : Builtin) {start stop : Text}
    {first last : Reference} (atStart : Reference.resolve start = .ok first)
    (atStop : Reference.resolve stop = .ok last) (neighbours : last.column = first.column + 1)
    (rows : first.row ≤ last.row) (values : List Float) :
    record.rangeValues start stop = .ok values ↔
      record.operands function (.list [start, stop]) = .ok values := by
  have columns : first.columnsTo last = [first.column, last.column] := by
    rw [Reference.columnsTo, neighbours, show first.column + 1 + 1 - first.column = 2 by omega]
    rfl
  rw [rangeValues_eq_ok_iff_of_resolve record atStart atStop, operands_pair_eq_ok_iff,
    operand_of_resolve record atStop, columns]
  simp only [valueAt_eq_ok_iff_of_resolve record atStart, valueAt_eq_ok_iff_of_resolve record atStop,
    List.map_cons, List.map_nil]
  constructor
  · rintro ⟨-, -, numbers⟩
    obtain ⟨left, tail, rfl, atLeft, numbers⟩ := List.map_eq_cons_iff.mp numbers.symm
    obtain ⟨right, tail, rfl, atRight, numbers⟩ := List.map_eq_cons_iff.mp numbers
    obtain rfl := List.map_eq_nil_iff.mp numbers
    exact ⟨left, right, atLeft.symm, atRight.symm, rfl⟩
  · rintro ⟨left, right, atLeft, atRight, rfl⟩
    exact ⟨by omega, rows, by simp [atLeft, atRight]⟩

/-- There are operands only in a record with cells, and then at least one. -/
theorem ne_nil_of_operands {record : Record} {function : Builtin} {arguments : Arguments}
    {values : List Float} (read : record.operands function arguments = .ok values) :
    values ≠ [] ∧ 0 < record.size := by
  have pos {text : Text} {value : Float} (read : record.valueAt text = .ok value) :
      0 < record.size := by
    obtain ⟨reference, -, found⟩ := (valueAt_eq_ok_iff record text value).mp read
    exact Nat.zero_lt_of_lt (lt_size_of_numberAt? found)
  fun_cases record.operands function arguments with
  | case1 start stop =>
    obtain ⟨first, last, -, -, ordered, -, numbers⟩ := (rangeValues_eq_ok_iff ..).mp read
    have atFirst : first.column ∈ first.columnsTo last :=
      (first.mem_columnsTo_iff last _).mpr ⟨Nat.le_refl _, ordered⟩
    obtain ⟨value, member, found⟩ := exists_numberAt?_of_mem numbers atFirst
    exact ⟨List.ne_nil_of_mem member, Nat.zero_lt_of_lt (lt_size_of_numberAt? found)⟩
  | case2 first second =>
    obtain ⟨left, right, atFirst, -, rfl⟩ := (operands_pair_eq_ok_iff ..).mp read
    exact ⟨List.cons_ne_nil _ _, pos atFirst⟩
  | case3 items other =>
    rw [operands] at read
    · contradiction
    · exact other
  | case4 text =>
    obtain ⟨value, atText, single⟩ := (Traversal.bind_eq_ok_iff ..).mp read
    obtain rfl := Except.ok.inj single
    exact ⟨List.cons_ne_nil _ _, pos atText⟩

end Record

/-- The cases that evaluation tells apart: a conditional formula with a list goes its own way, and
every other formula applies its function. -/
theorem Content.evaluationCases {motive : Content → Prop}
    (literal : ∀ value, motive (.literal value))
    (conditional : ∀ items, motive (.formula .ifElse (.list items)))
    (applied : ∀ function arguments, (function = .ifElse → ∀ items, arguments ≠ .list items) →
      motive (.formula function arguments))
    (invalid : motive .invalid) (content : Content) : motive content := by
  cases content with
  | literal value => exact literal value
  | formula function arguments =>
    by_cases listed : function = .ifElse ∧ ∃ items, arguments = .list items
    · obtain ⟨rfl, items, rfl⟩ := listed
      exact conditional items
    · exact applied function arguments fun named items same => listed ⟨named, items, same⟩
  | invalid => exact invalid

/-- What sets a conditional formula with a list apart from all others does not set these apart. -/
theorem Arguments.match_eq_of_unconditional {α : Type} {function : Builtin}
    {arguments : Arguments} (listed : List Text → α) (applied : Arguments → α) :
    (function = .ifElse → ∀ items, arguments ≠ .list items) →
      (match function.arity, arguments with
        | .conditional, .list items => listed items
        | _, arguments => applied arguments) = applied arguments := by
  intro unconditional
  split
  · next items conditional =>
    exact absurd rfl (unconditional (Builtin.eq_ifElse_of_arity conditional) items)
  · rfl

namespace Record

/-- A formula is its function applied to its operands, unless it is a conditional one. -/
theorem evaluate_formula (record : Record) (function : Builtin) (arguments : Arguments)
    (unconditional : function = .ifElse → ∀ items, arguments ≠ .list items) :
    record.evaluate (.formula function arguments) =
      record.operands function arguments >>= fun values => function.apply values record.size :=
  Arguments.match_eq_of_unconditional conditional _ unconditional

theorem evaluate_conditional (record : Record) (items : List Text) :
    record.evaluate (.formula .ifElse (.list items)) = conditional items := rfl

/-- The three ways to name operands agree. A range of one column is the reference to it, with the
same fault if there is one. A range of two neighbouring columns has the values of the list of its
ends; their faults may differ, because a range looks for its end before it reads a cell. In the
second place of a list a number stands for any cell that holds it. -/
theorem evaluate_paths_agree (record : Record) (function : Builtin) :
    (∀ text, record.evaluate (.formula function (.single text)) =
      record.evaluate (.formula function (.range text text))) ∧
    (function ≠ .ifElse → ∀ start stop first last, Reference.resolve start = .ok first →
      Reference.resolve stop = .ok last → last.column = first.column + 1 → first.row ≤ last.row →
      ∀ value, record.evaluate (.formula function (.range start stop)) = .ok value ↔
        record.evaluate (.formula function (.list [start, stop])) = .ok value) ∧
    (function ≠ .ifElse → ∀ first numeral text reference cell number,
      Number.parse? numeral = some number → Reference.resolve text = .ok reference →
      record.cell? reference.column = some cell → Number.parse? cell = some number →
      record.evaluate (.formula function (.list [first, numeral])) =
        record.evaluate (.formula function (.list [first, text]))) := by
  refine ⟨?_, ?_, ?_⟩
  · intro text
    rw [evaluate_formula record function (.single text) fun _ => nofun,
      evaluate_formula record function (.range text text) fun _ => nofun, operands, operands,
      rangeValues_self]
  · intro unconditional start stop first last atStart atStop neighbours rows value
    rw [evaluate_formula record function (.range start stop) fun _ => nofun,
      evaluate_formula record function (.list [start, stop]) (absurd · unconditional), operands,
      Traversal.bind_eq_ok_iff, Traversal.bind_eq_ok_iff]
    simp only [rangeValues_neighbours_eq_ok_iff record function atStart atStop neighbours rows]
  · intro unconditional first numeral text reference cell number parsed resolved present same
    have read : record.operand text = .ok number := by
      rw [operand_of_resolve record resolved, valueAt_eq_ok_iff]
      exact ⟨reference, resolved, (numberAt?_eq_some_iff ..).mpr ⟨cell, present, same⟩⟩
    rw [evaluate_formula record function (.list [first, numeral]) (absurd · unconditional),
      evaluate_formula record function (.list [first, text]) (absurd · unconditional), operands,
      operands, operand_of_parse? record parsed, read]

/-- A remainder, whose operands may not change places, with its divisor as a number and as a cell
that is spelled in another way, and from a range. -/
theorem evaluate_paths_agree_mod :
    let record := ofCells [" 17".toList, "5.0".toList]
    (∀ value, record.evaluate (.formula .mod (.range "a1".toList "B01".toList)) = .ok value ↔
      record.evaluate (.formula .mod (.list ["a1".toList, "B01".toList])) = .ok value) ∧
    record.evaluate (.formula .mod (.list ["a1".toList, "5".toList])) =
      record.evaluate (.formula .mod (.list ["a1".toList, "B01".toList])) := by
  intro record
  obtain ⟨-, neighbours, numerals⟩ := evaluate_paths_agree record .mod
  constructor
  · exact neighbours (by decide) _ _ ⟨0, 1⟩ ⟨1, 1⟩ rfl rfl rfl (by decide)
  · exact numerals (by decide) _ _ _ ⟨1, 1⟩ "5.0".toList 5 (by decide +kernel) rfl rfl
      (by decide +kernel)

end Record

end FlatSheet
