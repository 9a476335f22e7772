import FlatSheet.Proofs.Record.Operands
import FlatSheet.Proofs.Record.Pass

/-! # What an evaluation reads

The columns that a content reads can be told from the content alone. Two records of the same size
that agree there give it the same value or the same fault, also where the fault quotes a cell. So a
cell matters to the cells that read its column and to no other, and only the first 26 cells are read
at all. A content with a value read numbers only, and a formula is no number: no value depends on
the value of another formula.
-/

namespace FlatSheet

namespace Content

/-- Evaluating the content reads the column: one from the start to the end of a range, that of a
reference in a list of two, where a number in the second place is no reference, or that of a single
reference. The list of a conditional formula reads none, because it compares columns. -/
inductive Reads : Content → Nat → Prop
  | range {function : Builtin} {start stop : Text} {first last : Reference} {column : Nat}
      (atStart : Reference.resolve start = .ok first) (atStop : Reference.resolve stop = .ok last)
      (low : first.column ≤ column) (high : column ≤ last.column) :
      Reads (.formula function (.range start stop)) column
  | first {function : Builtin} {text second : Text} {reference : Reference}
      (unconditional : function ≠ .ifElse) (resolved : Reference.resolve text = .ok reference) :
      Reads (.formula function (.list [text, second])) reference.column
  | second {function : Builtin} {first text : Text} {reference : Reference}
      (unconditional : function ≠ .ifElse) (noNumber : Number.parse? text = none)
      (resolved : Reference.resolve text = .ok reference) :
      Reads (.formula function (.list [first, text])) reference.column
  | single {function : Builtin} {text : Text} {reference : Reference}
      (resolved : Reference.resolve text = .ok reference) :
      Reads (.formula function (.single text)) reference.column

/-- No column without a letter is read. -/
theorem Reads.lt {content : Content} {column : Nat} (reads : content.Reads column) :
    column < Reference.columnCount := by
  cases reads with
  | range _ atStop _ high => exact Nat.lt_of_le_of_lt high (Reference.column_lt_of_resolve atStop)
  | first _ resolved => exact Reference.column_lt_of_resolve resolved
  | second _ _ resolved => exact Reference.column_lt_of_resolve resolved
  | single resolved => exact Reference.column_lt_of_resolve resolved

/-- A cell with a formula, in quotes or not. -/
def IsFormula (cell : Text) : Prop := (unquoted cell).head? = some '='

private theorem not_isFormula_of_parse? {cell : Text} {number : Float}
    (parsed : Number.parse? cell = some number) : ¬IsFormula cell := by
  rw [IsFormula]
  have refused {char : Char} {rest : Text} (mark : char = '=' ∨ char = '"') :
      cell ≠ char :: rest := by
    rintro rfl
    have none : Number.parse? (char :: rest) = none := by
      rcases mark with rfl | rfl
      all_goals exact Number.parse?_cons_eq_none rfl (by decide) rfl (by decide) rest
    rw [none] at parsed
    contradiction
  fun_cases unquoted cell with
  | case1 rest closed => exact absurd rfl (refused (.inr rfl))
  | case2 rest opened => exact absurd rfl (refused (.inr rfl))
  | case3 other =>
    intro formula
    obtain ⟨rest, spelled⟩ := List.head?_eq_some_iff.mp formula
    exact refused (.inl rfl) spelled

/-- Only formulas have another content than a number. -/
theorem eq_literal_of_classify {cell : Text} (plain : ¬IsFormula cell) {content : Content}
    (classified : classify cell = .ok content) : ∃ value, content = .literal value := by
  rw [IsFormula] at plain
  rw [classify] at classified
  split at classified
  · next rest formula => exact absurd (by rw [formula]; rfl) plain
  · split at classified
    · exact ⟨_, (Except.ok.inj classified).symm⟩
    · contradiction

end Content

namespace Record

section Agreement

variable {first second : Record} (sameSize : first.size = second.size)

include sameSize

private theorem slice?_congr {start stop : Nat}
    (agree : ∀ column, start ≤ column → column ≤ stop → first.cell? column = second.cell? column) :
    first.slice? start stop = second.slice? start stop := by
  have columns : (List.range' start (stop + 1 - start)).map first.cell? =
      (List.range' start (stop + 1 - start)).map second.cell? := by
    apply List.map_congr_left
    intro column member
    rw [List.mem_range'_1] at member
    exact agree column member.1 (by omega)
  apply Option.ext
  intro cells
  rw [slice?_eq_some_iff, slice?_eq_some_iff, sameSize, columns]

theorem valueAt_congr {text : Text}
    (agree : ∀ reference, Reference.resolve text = .ok reference →
      first.cell? reference.column = second.cell? reference.column) :
    first.valueAt text = second.valueAt text := by
  cases resolved : Reference.resolve text with
  | error fault =>
    rw [valueAt, valueAt, resolved]
    rfl
  | ok reference =>
    rw [valueAt_of_resolve first resolved, valueAt_of_resolve second resolved,
      agree reference resolved, sameSize]

private theorem rangeValues_congr {start stop : Text}
    (agree : ∀ low high, Reference.resolve start = .ok low → Reference.resolve stop = .ok high →
      ∀ column, low.column ≤ column → column ≤ high.column →
        first.cell? column = second.cell? column) :
    first.rangeValues start stop = second.rangeValues start stop := by
  rw [rangeValues, rangeValues]
  cases atStart : Reference.resolve start with
  | error fault => rfl
  | ok low =>
    cases atStop : Reference.resolve stop with
    | error fault => rfl
    | ok high =>
      simp only [bind, Except.bind]
      rw [slice?_congr sameSize (agree low high atStart atStop), sameSize]

private theorem operand_congr {text : Text}
    (agree : ∀ reference, Number.parse? text = none → Reference.resolve text = .ok reference →
      first.cell? reference.column = second.cell? reference.column) :
    first.operand text = second.operand text := by
  rw [operand, operand]
  split
  · rfl
  · next noNumber => exact valueAt_congr sameSize fun reference => agree reference noNumber

/-- Records that agree on the columns that a content reads give it the same outcome. -/
theorem evaluate_congr {content : Content}
    (agree : ∀ column, content.Reads column → first.cell? column = second.cell? column) :
    first.evaluate content = second.evaluate content := by
  cases content with
  | literal value => rfl
  | invalid => rfl
  | formula function arguments =>
    by_cases conditional : function = .ifElse ∧ ∃ items, arguments = .list items
    · obtain ⟨rfl, items, rfl⟩ := conditional
      rfl
    have applied (record : Record) := record.evaluate_formula function arguments
      fun same items list => conditional ⟨same, items, list⟩
    rw [applied first, applied second, sameSize]
    congr 1
    cases arguments with
    | range start stop =>
      exact rangeValues_congr sameSize fun low high atStart atStop column above below =>
        agree column (.range atStart atStop above below)
    | single text =>
      rw [operands, operands, valueAt_congr sameSize fun reference resolved =>
        agree _ (.single resolved)]
    | list items =>
      have unconditional : function ≠ .ifElse := fun same => conditional ⟨same, items, rfl⟩
      rcases items with _ | ⟨left, _ | ⟨right, _ | _⟩⟩
      case cons.cons.nil =>
        rw [operands, operands,
          valueAt_congr sameSize fun reference resolved => agree _ (.first unconditional resolved),
          operand_congr sameSize fun reference noNumber resolved =>
            agree _ (.second unconditional noNumber resolved)]
      all_goals rfl

end Agreement

/-- The record with another cell at an index, if the index is inside. -/
def replace (record : Record) (index : Nat) (cell : Text) : Record :=
  { cells := record.cells.setIfInBounds index cell }

private theorem size_replace (record : Record) (index : Nat) (cell : Text) :
    (record.replace index cell).size = record.size := by
  simp [replace, size]

theorem cell?_replace_of_ne (record : Record) {index column : Nat} (other : column ≠ index)
    (cell : Text) : (record.replace index cell).cell? column = record.cell? column := by
  simp [replace, cell?, other.symm]

/-- A cell that does not read a column is handled in the same way whatever that column holds. -/
theorem handle_replace (record : Record) {index : Nat} {written : Text}
    (unread : ∀ content, Content.classify written = .ok content → ¬content.Reads index)
    (replacement : Text) (position : Nat) :
    (record.replace index replacement).handle position written =
      record.handle position written := by
  rw [handle, handle]
  cases classified : Content.classify written with
  | error fault => rfl
  | ok content =>
    have agree : ∀ column, content.Reads column →
        (record.replace index replacement).cell? column = record.cell? column := by
      intro column reads
      refine record.cell?_replace_of_ne ?_ replacement
      rintro rfl
      exact unread content classified reads
    simp only [evaluate_congr (record.size_replace index replacement) agree]

private theorem operands_of_evaluate {record : Record} {function : Builtin} {arguments : Arguments}
    {value : Float} (evaluated : record.evaluate (.formula function arguments) = .ok value)
    (unconditional : function = .ifElse → ∀ items, arguments ≠ .list items) :
    ∃ values, record.operands function arguments = .ok values := by
  rw [evaluate_formula record function arguments unconditional, Traversal.bind_eq_ok_iff]
    at evaluated
  obtain ⟨values, read, -⟩ := evaluated
  exact ⟨values, read⟩

/-- All columns that a content with a value reads are numbers. -/
theorem numberAt?_of_evaluate {record : Record} {content : Content} {value : Float}
    (evaluated : record.evaluate content = .ok value) {column : Nat}
    (reads : content.Reads column) : ∃ number, record.numberAt? column = some number := by
  cases reads with
  | @range function start stop first last _ atStart atStop low high =>
    obtain ⟨values, read⟩ := operands_of_evaluate evaluated fun _ => nofun
    obtain ⟨-, -, numbers⟩ := (record.rangeValues_eq_ok_iff_of_resolve atStart atStop values).mp read
    have between : column ∈ first.columnsTo last :=
      (first.mem_columnsTo_iff last column).mpr ⟨low, high⟩
    obtain ⟨number, -, found⟩ := exists_numberAt?_of_mem numbers between
    exact ⟨number, found⟩
  | first unconditional resolved =>
    obtain ⟨values, read⟩ := operands_of_evaluate evaluated (absurd · unconditional)
    obtain ⟨left, right, atLeft, -⟩ := (operands_pair_eq_ok_iff ..).mp read
    exact ⟨left, (record.valueAt_eq_ok_iff_of_resolve resolved left).mp atLeft⟩
  | second unconditional noNumber resolved =>
    obtain ⟨values, read⟩ := operands_of_evaluate evaluated (absurd · unconditional)
    obtain ⟨left, right, -, atRight, -⟩ := (operands_pair_eq_ok_iff ..).mp read
    rw [operand_of_resolve record resolved] at atRight
    exact ⟨right, (record.valueAt_eq_ok_iff_of_resolve resolved right).mp atRight⟩
  | single resolved =>
    obtain ⟨values, read⟩ := operands_of_evaluate evaluated fun _ => nofun
    rw [operands, Traversal.bind_eq_ok_iff] at read
    obtain ⟨value, atText, -⟩ := read
    exact ⟨value, (record.valueAt_eq_ok_iff_of_resolve resolved value).mp atText⟩

/-- Evaluation reads the columns of its content and nothing else. -/
theorem evaluate_local :
    (∀ (content : Content) (first second : Record), first.size = second.size →
      (∀ column, content.Reads column → first.cell? column = second.cell? column) →
      first.evaluate content = second.evaluate content) ∧
    (∀ (content : Content) (column : Nat), content.Reads column → column < 26) ∧
    (∀ (content : Content) (first second : Record), first.size = second.size →
      (∀ column < 26, first.cell? column = second.cell? column) →
      first.evaluate content = second.evaluate content) ∧
    (∀ (record : Record) (index column : Nat) (written replacement : Text), column ≠ index →
      record.cell? column = some written →
      (∀ content, Content.classify written = .ok content → ¬content.Reads index) →
      (record.replace index replacement).cell? column = some written ∧
      (record.replace index replacement).handle column written = record.handle column written ∧
      ∀ results others, record.compile = .ok results →
        (record.replace index replacement).compile = .ok others →
        results.values[column]? = others.values[column]?) ∧
    (∀ (record : Record) (content : Content) (value : Float), record.evaluate content = .ok value →
      ∀ column, content.Reads column → ∃ cell number, record.cell? column = some cell ∧
        Number.parse? cell = some number ∧ ¬Content.IsFormula cell ∧
        ∀ held, Content.classify cell = .ok held → ∃ literal, held = .literal literal) := by
  refine ⟨fun _ _ _ sameSize => evaluate_congr sameSize, fun _ _ => Content.Reads.lt, ?_, ?_, ?_⟩
  · intro content first second sameSize agree
    exact evaluate_congr sameSize fun column reads => agree column reads.lt
  · intro record index column written replacement other present unread
    have kept : (record.replace index replacement).cell? column = some written :=
      (record.cell?_replace_of_ne other replacement).trans present
    have handled := record.handle_replace unread replacement column
    refine ⟨kept, handled, ?_⟩
    intro results others compiled recompiled
    have before := (compile_eq_ok_iff record results).mp compiled column
    have after := (compile_eq_ok_iff _ others).mp recompiled column
    have sameValue : (record.replace index replacement).valueOf written = record.valueOf written := by
      rw [← handle_value _ column, handled, handle_value]
    rw [present, Option.map_some] at before
    rw [kept, Option.map_some, sameValue, before] at after
    exact Option.map_injective (fun _ _ => Except.ok.inj) after
  · intro record content value evaluated column reads
    obtain ⟨number, found⟩ := numberAt?_of_evaluate evaluated reads
    obtain ⟨cell, present, parsed⟩ := (numberAt?_eq_some_iff record column number).mp found
    have plain := Content.not_isFormula_of_parse? parsed
    exact ⟨cell, number, present, parsed, plain, fun held => Content.eq_literal_of_classify plain⟩

/-- A sum over a formula fails with that formula whatever stands behind it, and the formula has its
value from the first cell alone. -/
theorem evaluate_local_self_reading :
    let record := ofCells ["7".toList, "=SUM(A1)".toList, "x".toList]
    (record.replace 2 "=A".toList).evaluate (.formula .sum (.range "A1".toList "B9".toList)) =
      record.evaluate (.formula .sum (.range "A1".toList "B9".toList)) ∧
    (record.replace 2 "=A".toList).handle 1 "=SUM(A1)".toList =
      record.handle 1 "=SUM(A1)".toList ∧
    ∃ cell number, record.cell? 0 = some cell ∧ Number.parse? cell = some number ∧
      ¬Content.IsFormula cell := by
  intro record
  obtain ⟨same, -, -, handled, numbers⟩ := evaluate_local
  have atA : Reference.resolve "A1".toList = .ok ⟨0, 1⟩ := rfl
  have atB : Reference.resolve "B9".toList = .ok ⟨1, 9⟩ := rfl
  refine ⟨?_, ?_, ?_⟩
  · refine same _ _ _ rfl fun column reads => ?_
    cases reads with
    | range atStart atStop low high =>
      obtain rfl := Except.ok.inj (atB.symm.trans atStop)
      exact record.cell?_replace_of_ne (Nat.ne_of_lt (Nat.lt_succ_of_le high)) _
  · refine (handled record 2 1 "=SUM(A1)".toList "=A".toList (by decide) rfl ?_).2.1
    intro content classified reads
    have single : Content.classify "=SUM(A1)".toList = .ok (.formula .sum (.single "A1".toList)) :=
      rfl
    obtain rfl := Except.ok.inj (single.symm.trans classified)
    generalize column : 2 = index at reads
    cases reads with
    | single resolved =>
      obtain rfl := Except.ok.inj (atA.symm.trans resolved)
      contradiction
  · have evaluated : record.evaluate (.formula .count (.single "A1".toList)) = .ok 1 := by
      decide +kernel
    obtain ⟨cell, number, present, parsed, plain, -⟩ :=
      numbers record _ _ evaluated 0 (.single atA)
    exact ⟨cell, number, present, parsed, plain⟩

end Record

end FlatSheet
