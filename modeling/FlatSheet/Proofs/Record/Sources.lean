import FlatSheet.Proofs.Content.Classification
import FlatSheet.Proofs.Number.Integer
import FlatSheet.Proofs.Record.Operands
import FlatSheet.Proofs.Record.Pass

/-! # Where operands come from

Each operand of a formula is a number that stands in the formula or the number in a column of the
record, and the arguments tell which. A cell with an integer has the same number as a result of its
own, because the reading of cells and the reading of operands agree on integers. So the formulas that
refer to such a cell are applied to the number that the pass shows for it.
-/

namespace FlatSheet

/-- The column that a text refers to, if it is a reference. -/
def Reference.column? (text : Text) : Option Nat := (parse? text).map column

private theorem Reference.column?_of_resolve {text : Text} {reference : Reference}
    (resolved : resolve text = .ok reference) : column? text = some reference.column := by
  rw [column?, (resolve_eq_ok_iff text reference).mp resolved, Option.map_some]

/-- The column that each operand comes from, in order. A number among the arguments has none. -/
def Arguments.sources : Arguments → List (Option Nat)
  | .range start stop =>
    match Reference.parse? start, Reference.parse? stop with
    | some first, some last => (first.columnsTo last).map some
    | _, _ => []
  | .list items => items.map Reference.column?
  | .single reference => [Reference.column? reference]

namespace Record

theorem numberAt?_of_valueAt {record : Record} {text : Text} {value : Float}
    (read : record.valueAt text = .ok value) :
    ∀ column ∈ Reference.column? text, record.numberAt? column = some value := by
  obtain ⟨reference, resolved, found⟩ := (valueAt_eq_ok_iff record text value).mp read
  rw [Reference.column?_of_resolve resolved]
  rintro column ⟨⟩
  exact found

/-- The second argument of a list has no column when it is a number. -/
theorem numberAt?_of_operand {record : Record} {text : Text} {value : Float}
    (read : record.operand text = .ok value) :
    ∀ column ∈ Reference.column? text, record.numberAt? column = some value := by
  intro column source
  obtain ⟨reference, parsed, -⟩ := Option.map_eq_some_iff.mp source
  rw [operand_of_resolve record ((Reference.resolve_eq_ok_iff text reference).mpr parsed)] at read
  exact numberAt?_of_valueAt read column source

/-- There is one source for each operand, and an operand with a column is the number there. -/
theorem sources_of_operands {record : Record} {function : Builtin} {arguments : Arguments}
    {values : List Float} (read : record.operands function arguments = .ok values) :
    List.Forall₂ (fun source value => ∀ column ∈ source, record.numberAt? column = some value)
      arguments.sources values := by
  fun_cases record.operands function arguments with
  | case1 start stop =>
    obtain ⟨first, last, atStart, atStop, -, -, numbers⟩ := (rangeValues_eq_ok_iff ..).mp read
    rw [Reference.resolve_eq_ok_iff] at atStart atStop
    rw [← List.forall₂_eq_eq_eq, List.forall₂_map_left_iff, List.forall₂_map_right_iff] at numbers
    rw [Arguments.sources, atStart, atStop, List.forall₂_map_left_iff]
    refine numbers.imp fun column value found => ?_
    rintro other ⟨⟩
    exact found
  | case2 first second =>
    obtain ⟨left, right, atFirst, atSecond, rfl⟩ := (operands_pair_eq_ok_iff ..).mp read
    exact .cons (numberAt?_of_valueAt atFirst) (.cons (numberAt?_of_operand atSecond) .nil)
  | case3 items other =>
    rw [operands] at read
    · contradiction
    · exact other
  | case4 text =>
    obtain ⟨value, atText, single⟩ := (Traversal.bind_eq_ok_iff ..).mp read
    obtain rfl := Except.ok.inj single
    exact .cons (numberAt?_of_valueAt atText) .nil

/-- A cell with an integer has the value that an operand read from it would have. -/
theorem valueOf_of_isInteger (record : Record) {cell : Text} (integer : cell.IsInteger) {value : Float} :
    record.valueOf cell = .ok value ↔ Number.parse? cell = some value := by
  obtain ⟨first, rest, rfl, noQuote, noEquals⟩ := integer.exists_plain
  rw [valueOf, Content.classify_of_plain noQuote noEquals, Number.integerPrefix?_eq_parse? integer]
  cases Number.parse? (first :: rest) with
  | none => simp [Except.bind]
  | some number => simp [Except.bind, evaluate]

/-- The result of a cell with an integer is the number that its column holds. -/
theorem numberAt?_of_isInteger {record : Record} {results : Results}
    (compiled : record.compile = .ok results) {column : Nat} {cell : Text}
    (present : record.cell? column = some cell) (integer : cell.IsInteger) :
    ∃ value, results.values[column]? = some value ∧ record.numberAt? column = some value := by
  have same := (compile_eq_ok_iff record results).mp compiled column
  rw [present, Option.map_some, eq_comm, Option.map_eq_some_iff] at same
  obtain ⟨value, atColumn, evaluated⟩ := same
  refine ⟨value, atColumn, (numberAt?_eq_some_iff record column value).mpr ⟨cell, present, ?_⟩⟩
  exact (record.valueOf_of_isInteger integer).mp evaluated.symm

/-- The leading integer of a text that is an integer is the number that the whole text is. So after
a pass every operand that a function is applied to, and that comes from the column of such a cell,
is the result of the cell. -/
theorem integer_results_are_operands :
    (∀ text : Text, text.IsInteger → Number.integerPrefix? text = Number.parse? text) ∧
    ∀ (record : Record) (results : Results), record.compile = .ok results →
      ∀ (column : Nat) (cell : Text), record.cell? column = some cell → cell.IsInteger →
        ∃ value, results.values[column]? = some value ∧
          Number.integerPrefix? cell = some value ∧
          ∀ (function : Builtin) (arguments : Arguments) (operands : List Float),
            record.operands function arguments = .ok operands →
            ((function = .ifElse → ∀ items, arguments ≠ .list items) →
              record.evaluate (.formula function arguments) =
                function.apply operands record.size) ∧
            arguments.sources.length = operands.length ∧
            ∀ position : Nat, arguments.sources[position]? = some (some column) →
              operands[position]? = some value := by
  refine ⟨fun _ => Number.integerPrefix?_eq_parse?, ?_⟩
  intro record results compiled column cell present integer
  obtain ⟨value, atColumn, held⟩ := numberAt?_of_isInteger compiled present integer
  refine ⟨value, atColumn, ?_, ?_⟩
  · obtain ⟨other, same, parsed⟩ := (numberAt?_eq_some_iff record column value).mp held
    obtain rfl := Option.some.inj (present.symm.trans same)
    rw [Number.integerPrefix?_eq_parse? integer, parsed]
  · intro function arguments operands read
    have sources := sources_of_operands read
    refine ⟨fun unconditional => ?_, sources.length_eq, fun position source => ?_⟩
    · rw [evaluate_formula record function arguments unconditional, read]
      rfl
    · obtain ⟨inside, atPosition⟩ := List.getElem?_eq_some_iff.mp source
      have bound : position < operands.length := sources.length_eq ▸ inside
      have found := sources.get inside bound column (Option.mem_def.mpr atPosition)
      rw [List.getElem?_eq_getElem bound, ← held, found]
      rfl

/-- A negative zero with blanks around it is an operand with its sign, behind a number that is
rounded in the same way in both readings. -/
theorem integer_results_are_operands_negative_zero :
    let record := ofCells [" -0\t".toList, "+12345678901234567891".toList, "=MIN(b7,A1)".toList]
    let operands : List Float := [12345678901234567168, -0]
    Text.IsInteger " -0\t".toList ∧ Text.IsInteger "+12345678901234567891".toList ∧
      Number.integerPrefix? " -0\t".toList = Number.parse? " -0\t".toList ∧
      record.operands .min (.list ["b7".toList, "A1".toList]) = .ok operands ∧
      ∃ results, record.compile = .ok results ∧
        results.values[1]? = operands[0]? ∧ results.values[0]? = operands[1]? := by
  intro record operands
  obtain ⟨alike, after⟩ := integer_results_are_operands
  have zero : Text.IsInteger " -0\t".toList :=
    ⟨['-'], by decide, ['0'], by decide, by decide, by decide +kernel⟩
  have wide : Text.IsInteger "+12345678901234567891".toList :=
    ⟨['+'], by decide, "12345678901234567891".toList, by decide, by decide +kernel, by decide +kernel⟩
  have read : record.operands .min (.list ["b7".toList, "A1".toList]) = .ok operands := by
    decide +kernel
  have compiled : record.compile = .ok ⟨#[-0, 12345678901234567168, -0]⟩ := by decide +kernel
  obtain ⟨left, atLeft, -, fromLeft⟩ := after record _ compiled 1 _ rfl wide
  obtain ⟨right, atRight, -, fromRight⟩ := after record _ compiled 0 _ rfl zero
  refine ⟨zero, wide, alike _ zero, read, _, compiled, ?_, ?_⟩
  · rw [atLeft, (fromLeft _ _ _ read).2.2 0 rfl]
  · rw [atRight, (fromRight _ _ _ read).2.2 1 rfl]

/-- Texts that are no integers may be read in two ways. -/
example : (Number.integerPrefix? "1e3".toList, Number.parse? "1e3".toList) =
    (some 1, some 1000) := by decide +kernel

end Record

end FlatSheet
