import FlatSheet.Proofs.Traversal
import FlatSheet.Record.Pass

/-! # What a pass leaves

The value of a cell depends on the record and the text of the cell alone. Handling the cell pushes
that value, or leaves the results as they are and answers with the fault. So any sequence of cells,
from the record or not, appends the values of those that have one. A pass is the sequence of all
cells of the record up to the first fault, and it has results only when no cell has a fault.
-/

namespace FlatSheet

namespace Results

/-- The results with further values after the last one. -/
def append (results : Results) (values : List Float) : Results :=
  { values := results.values ++ values.toArray }

@[simp] theorem append_nil (results : Results) : results.append [] = results := by
  simp [append]

@[simp] theorem append_push (results : Results) (value : Float) (values : List Float) :
    (results.push value).append values = results.append (value :: values) := by
  simp [append, push]

theorem append_append (results : Results) (first second : List Float) :
    (results.append first).append second = results.append (first ++ second) := by
  simp [append]

theorem eq_empty_append_iff (results : Results) (values : List Float) :
    empty.append values = results ↔ values = results.values.toList := by
  cases results with
  | mk array => cases array; simp [append, empty]

end Results

namespace Record

/-- The value of a cell: the fault of classifying it, or else what evaluating its content gives. -/
def valueOf (record : Record) (cell : Text) : Except Fault Float :=
  (Content.classify cell).bind record.evaluate

/-- An invalid formula counts as zero. -/
theorem valueOf_invalid (record : Record) (cell : Text)
    (invalid : Content.classify cell = .ok .invalid) : record.valueOf cell = .ok 0 := by
  simp only [valueOf, invalid, Except.bind, evaluate]

/-- The index of a cell shows in its log and not in its value. -/
theorem handle_value (record : Record) (index : Nat) (cell : Text) :
    (record.handle index cell).value = record.valueOf cell := by
  cases content : Content.classify cell <;> simp [handle, valueOf, content, Except.bind]

/-- Handling a cell pushes its value, or answers with its fault and keeps the results. -/
theorem process_run (record : Record) (index : Nat) (cell : Text) (results : Results) :
    (record.process index cell).run.run results =
      match record.valueOf cell with
      | .ok value => (.ok (), results.push value)
      | .error fault => (.error fault, results) := by
  rw [← handle_value record index cell]
  cases value : (record.handle index cell).value <;> simp [process, value] <;> rfl

/-- Handles cells in order on the same results and goes on after faults. The answers are kept. -/
def processAll (record : Record) : List (Nat × Text) → Results → List (Except Fault Unit) × Results
  | [], results => ([], results)
  | (index, cell) :: rest, results =>
    let (answer, next) := (record.process index cell).run.run results
    let (answers, last) := record.processAll rest next
    (answer :: answers, last)

/-- Any calls append the values of the cells that have one, and each answer is that of its cell. -/
theorem processAll_eq (record : Record) (calls : List (Nat × Text)) (initial : Results) :
    record.processAll calls initial =
      (calls.map fun call => (record.valueOf call.2).map fun _ => (),
        initial.append (calls.filterMap fun call => (record.valueOf call.2).toOption)) := by
  induction calls generalizing initial with
  | nil => simp [processAll]
  | cons call rest ih =>
    simp only [processAll, process_run]
    cases value : record.valueOf call.2 with
    | error fault => simp [value, ih, Except.map, Except.toOption]
    | ok value => simp [value, ih, Except.map, Except.toOption]

/-- Going on with a pass appends the values of the cells that are left, unless one has a fault. -/
theorem passFrom_results (record : Record) (log : List LogEntry) (results : Results) (index : Nat)
    (cells : List Text) :
    (record.passFrom log results index cells).results =
      (cells.mapM record.valueOf).map results.append := by
  induction cells generalizing log results index with
  | nil => simp [passFrom, pure, Except.pure, Except.map]
  | cons cell rest ih =>
    rw [passFrom, List.mapM_cons, handle_value]
    cases value : record.valueOf cell with
    | error fault => simp [bind, Except.bind, Except.map]
    | ok value =>
      simp only [ih]
      cases values : rest.mapM record.valueOf <;>
        simp [bind, Except.bind, pure, Except.pure, Except.map]

theorem compile_eq_mapM (record : Record) :
    record.compile = (record.cells.toList.mapM record.valueOf).map Results.empty.append :=
  passFrom_results record [] .empty 0 record.cells.toList

/-- The cells of a record with their indices. -/
def calls (record : Record) : List (Nat × Text) := record.cells.toList.zipIdx.map Prod.swap

theorem calls_cells (record : Record) : record.calls.map Prod.snd = record.cells.toList := by
  simp [calls, Function.comp_def]

/-- Handles cells in order on the same results and stops at the first fault. -/
def processUntilFault (record : Record) :
    List (Nat × Text) → ExceptT Fault (StateM Results) Unit
  | [] => pure ()
  | (index, cell) :: rest => do
    record.process index cell
    record.processUntilFault rest

/-- What a run leaves: its fault, or else the results at its end. -/
def collected (outcome : Except Fault Unit × Results) : Except Fault Results :=
  outcome.1.map fun _ => outcome.2

/-- Stopping at the first fault appends the values of all cells if none has a fault. -/
theorem processUntilFault_run (record : Record) (calls : List (Nat × Text)) (initial : Results) :
    collected ((record.processUntilFault calls).run.run initial) =
      ((calls.map Prod.snd).mapM record.valueOf).map initial.append := by
  induction calls generalizing initial with
  | nil => simp [processUntilFault, pure, Except.pure, Except.map]; rfl
  | cons call rest ih =>
    simp only [processUntilFault, ExceptT.run_bind, StateT.run_bind, process_run,
      List.map_cons, List.mapM_cons] at ih ⊢
    cases value : record.valueOf call.2 with
    | error fault => rfl
    | ok number =>
      refine (ih (initial.push number)).trans ?_
      cases values : (rest.map Prod.snd).mapM record.valueOf <;>
        simp [bind, Except.bind, pure, Except.pure, Except.map]

/-- A pass handles the cells of the record in order on one sequence of results, and its results
are those left at the end unless a cell had a fault. -/
theorem compile_eq_processUntilFault (record : Record) :
    record.compile =
      collected ((record.processUntilFault record.calls).run.run .empty) := by
  rw [compile_eq_mapM, processUntilFault_run, calls_cells]

/-- A pass has given results exactly when they are the values of all cells in order. -/
theorem compile_eq_ok_iff (record : Record) (results : Results) :
    record.compile = .ok results ↔
      ∀ index, (record.cell? index).map record.valueOf = results.values[index]?.map .ok := by
  have pointwise : record.compile = .ok results ↔
      record.cells.toList.map record.valueOf = results.values.toList.map .ok := by
    rw [compile_eq_mapM, ← Traversal.mapM_eq_ok_iff]
    cases record.cells.toList.mapM record.valueOf with
    | error fault => simp [Except.map]
    | ok values => simp [Except.map, Results.eq_empty_append_iff]
  rw [pointwise, List.ext_getElem?_iff]
  simp only [List.getElem?_map, Array.getElem?_toList, cell?]

/-- The results of a pass are as many as the cells. -/
theorem compile_size {record : Record} {results : Results}
    (compiled : record.compile = .ok results) : results.size = record.size := by
  have same := (compile_eq_ok_iff record results).mp compiled
  apply Nat.le_antisymm
  · have atEnd := same record.size
    simpa [cell?, size, Results.size] using atEnd.symm
  · have atEnd := same results.size
    simpa [cell?, size, Results.size] using atEnd

/-- A pass fails exactly with the fault of the first cell that has one. -/
theorem compile_eq_error_iff (record : Record) (fault : Fault) :
    record.compile = .error fault ↔
      ∃ index cell, record.cell? index = some cell ∧ record.valueOf cell = .error fault ∧
        ∀ earlier < index, ∀ other, record.cell? earlier = some other →
          ∃ value, record.valueOf other = .ok value := by
  have traversed : record.compile = .error fault ↔
      record.cells.toList.mapM record.valueOf = .error fault := by
    rw [compile_eq_mapM]
    cases record.cells.toList.mapM record.valueOf <;> simp [Except.map]
  rw [traversed, Traversal.mapM_eq_error_iff]
  simp only [cell?, Array.getElem?_toList]

/-- A pass has results exactly when every cell has a value. -/
theorem exists_compile_eq_ok_iff (record : Record) :
    (∃ results, record.compile = .ok results) ↔
      ∀ cell ∈ record.cells, ∃ value, record.valueOf cell = .ok value := by
  have traversed : (∃ results, record.compile = .ok results) ↔
      ∃ values, record.cells.toList.mapM record.valueOf = .ok values := by
    rw [compile_eq_mapM]
    cases record.cells.toList.mapM record.valueOf <;> simp [Except.map]
  rw [traversed, Traversal.exists_mapM_eq_ok_iff]
  simp only [Array.mem_toList_iff]

/-- Handling cells is atomic, whatever cells they are and in whatever order: a cell with a value
pushes it and a cell with a fault keeps the results. A pass is all or nothing: it has results
exactly when every cell has a value, and then one for each cell at its place; otherwise it has the
fault of its first cell with one. Invalid formulas are cells with the value zero. -/
theorem process_atomic_compile_all_or_nothing (record : Record) :
    (∀ index cell results, (record.process index cell).run.run results =
      match record.valueOf cell with
      | .ok value => (.ok (), results.push value)
      | .error fault => (.error fault, results)) ∧
    (∀ calls initial, record.processAll calls initial =
      (calls.map fun call => (record.valueOf call.2).map fun _ => (),
        initial.append (calls.filterMap fun call => (record.valueOf call.2).toOption))) ∧
    record.compile = collected ((record.processUntilFault record.calls).run.run .empty) ∧
    ((∃ results, record.compile = .ok results) ↔
      ∀ cell ∈ record.cells, ∃ value, record.valueOf cell = .ok value) ∧
    (∀ results, record.compile = .ok results ↔ results.size = record.size ∧
      ∀ index, (record.cell? index).map record.valueOf = results.values[index]?.map .ok) ∧
    (∀ fault, record.compile = .error fault ↔
      ∃ index cell, record.cell? index = some cell ∧ record.valueOf cell = .error fault ∧
        ∀ earlier < index, ∀ other, record.cell? earlier = some other →
          ∃ value, record.valueOf other = .ok value) ∧
    (∀ cell, Content.classify cell = .ok .invalid → record.valueOf cell = .ok 0 ∧
      ∀ results index, record.compile = .ok results → record.cell? index = some cell →
        results.values[index]? = some 0) := by
  refine ⟨record.process_run, record.processAll_eq, record.compile_eq_processUntilFault,
    record.exists_compile_eq_ok_iff, ?_, record.compile_eq_error_iff, ?_⟩
  · intro results
    rw [compile_eq_ok_iff]
    refine ⟨fun same => ⟨?_, same⟩, And.right⟩
    exact compile_size ((compile_eq_ok_iff record results).mpr same)
  · intro cell invalid
    have zero := record.valueOf_invalid cell invalid
    refine ⟨zero, ?_⟩
    intro results index compiled present
    have same := (compile_eq_ok_iff record results).mp compiled index
    rw [present, Option.map_some, zero, eq_comm, Option.map_eq_some_iff] at same
    obtain ⟨value, atIndex, equal⟩ := same
    rw [atIndex, Except.ok.inj equal]

/-- An invalid formula before two cells that are no content: the first of the two ends the pass.
Alone it is the only result. -/
theorem compile_fault_after_invalid :
    (ofCells [['='], ['x'], ['y']]).compile = .error (.invalidContent ['x']) ∧
    ∃ results, (ofCells [['=']]).compile = .ok results ∧ results.values[0]? = some 0 := by
  constructor
  · obtain ⟨-, -, -, -, -, firstFault, -⟩ :=
      process_atomic_compile_all_or_nothing (ofCells [['='], ['x'], ['y']])
    refine (firstFault _).mpr ⟨1, ['x'], rfl, rfl, ?_⟩
    intro earlier bound other present
    obtain rfl : earlier = 0 := by omega
    obtain rfl : ['='] = other := Option.some.inj present
    exact ⟨0, rfl⟩
  · obtain ⟨-, -, -, allValues, -, -, invalid⟩ :=
      process_atomic_compile_all_or_nothing (ofCells [['=']])
    obtain ⟨zero, atPlace⟩ := invalid ['='] rfl
    have values : ∀ cell ∈ (ofCells [['=']]).cells,
        ∃ value, (ofCells [['=']]).valueOf cell = .ok value := by
      intro cell member
      obtain rfl : cell = ['='] := by simpa [ofCells] using member
      exact ⟨0, zero⟩
    obtain ⟨results, compiled⟩ := allValues.mpr values
    exact ⟨results, compiled, atPlace results 0 compiled rfl⟩

end Record

end FlatSheet
