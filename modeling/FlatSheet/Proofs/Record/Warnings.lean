import FlatSheet.Proofs.Record.Pass
import Mathlib.Data.List.TakeWhile

/-! # What a pass warns of

The log of a pass is that of its cells in order, up to the first cell that fails. A cell warns when
it is an invalid formula, and such a cell never fails. So the warnings of a pass are one for each
invalid formula before the first cell that fails, in the order of the record and each with the index
of its cell.
-/

namespace FlatSheet

/-- Whether an entry of the log is a warning. -/
def LogEntry.isWarning (entry : LogEntry) : Bool := entry.severity == .warning

namespace Record

/-- The warning about a cell, if it is an invalid formula. -/
def warning? (call : Nat × Text) : Option LogEntry :=
  match Content.classify call.2 with
  | .ok .invalid => some (.zeroed call.1 call.2)
  | _ => none

/-- The cells in front of the first one that fails. -/
def handled (record : Record) (calls : List (Nat × Text)) : List (Nat × Text) :=
  calls.takeWhile fun call => (record.valueOf call.2).isOk

theorem warning?_eq_some_iff (index : Nat) (cell : Text) (entry : LogEntry) :
    warning? (index, cell) = some entry ↔
      Content.classify cell = .ok .invalid ∧ entry = .zeroed index cell := by
  rw [warning?]
  split
  · next invalid => simp [invalid, eq_comm]
  · next other => simpa using fun invalid => absurd invalid other

/-- Handling a cell logs its content, and warns if that is an invalid formula. -/
theorem handle_warnings (record : Record) (index : Nat) (cell : Text) :
    (record.handle index cell).log.filter LogEntry.isWarning = (warning? (index, cell)).toList := by
  rw [handle]
  cases classified : Content.classify cell with
  | error fault => simp [warning?, classified]
  | ok content =>
    cases content with
    | invalid => simp [warning?, classified, LogEntry.isWarning, LogEntry.severity]
    | literal | formula => simp [warning?, classified, LogEntry.isWarning, LogEntry.severity]

/-- A cell that fails is no invalid formula. -/
theorem warning?_eq_none_of_error {record : Record} {index : Nat} {cell : Text} {fault : Fault}
    (failed : record.valueOf cell = .error fault) : warning? (index, cell) = none := by
  rw [Option.eq_none_iff_forall_not_mem]
  intro entry warned
  obtain ⟨invalid, -⟩ := (warning?_eq_some_iff index cell entry).mp warned
  rw [record.valueOf_invalid cell invalid] at failed
  contradiction

private theorem handled_cons_of_ok {record : Record} {call : Nat × Text} {value : Float}
    (succeeded : record.valueOf call.2 = .ok value) (rest : List (Nat × Text)) :
    record.handled (call :: rest) = call :: record.handled rest :=
  List.takeWhile_cons_of_pos (by rw [succeeded]; rfl)

private theorem handled_cons_of_error {record : Record} {call : Nat × Text} {fault : Fault}
    (failed : record.valueOf call.2 = .error fault) (rest : List (Nat × Text)) :
    record.handled (call :: rest) = [] :=
  List.takeWhile_cons_of_neg (by rw [failed]; exact Bool.false_ne_true)

private theorem filterMap_warning?_cons (call : Nat × Text) (rest : List (Nat × Text)) :
    (call :: rest).filterMap warning? = (warning? call).toList ++ rest.filterMap warning? := by
  cases warned : warning? call with
  | none => simp [warned]
  | some entry => simp [warned]

/-- Going on with a pass adds the warnings of the cells that are left, up to the first failure. -/
theorem passFrom_warnings (record : Record) (log : List LogEntry) (results : Results) (index : Nat)
    (cells : List Text) :
    (record.passFrom log results index cells).log.filter LogEntry.isWarning =
      log.reverse.filter LogEntry.isWarning ++
        (record.handled ((cells.zipIdx index).map Prod.swap)).filterMap warning? := by
  induction cells generalizing log results index with
  | nil => simp [passFrom, handled]
  | cons cell rest ih =>
    rw [passFrom, handle_value, List.zipIdx_cons, List.map_cons, Prod.swap_prod_mk]
    have warned := record.handle_warnings index cell
    have soFar : ((record.handle index cell).log.reverse ++ log).reverse.filter LogEntry.isWarning =
        log.reverse.filter LogEntry.isWarning ++ (warning? (index, cell)).toList := by
      rw [List.reverse_append, List.reverse_reverse, List.filter_append, warned]
    cases value : record.valueOf cell with
    | error fault =>
      rw [handled_cons_of_error value]
      rw [warning?_eq_none_of_error value] at soFar
      exact soFar
    | ok value' =>
      rw [handled_cons_of_ok value, filterMap_warning?_cons, ← List.append_assoc, ← soFar]
      exact ih _ _ _

/-- The warnings of a pass are those of the cells in front of the first one that fails. -/
theorem pass_warnings (record : Record) :
    record.pass.log.filter LogEntry.isWarning =
      (record.handled record.calls).filterMap warning? :=
  record.passFrom_warnings [] .empty 0 record.cells.toList

/-- A pass warns of a cell that it handles when that is an invalid formula, and of no other one. -/
theorem zeroed_mem_log_iff (record : Record) (index : Nat) (cell : Text) :
    .zeroed index cell ∈ record.pass.log ↔
      (index, cell) ∈ record.handled record.calls ∧ Content.classify cell = .ok .invalid := by
  have shown : .zeroed index cell ∈ record.pass.log ↔
      .zeroed index cell ∈ record.pass.log.filter LogEntry.isWarning := by
    rw [List.mem_filter]
    exact (and_iff_left rfl).symm
  rw [shown, pass_warnings, List.mem_filterMap]
  constructor
  · rintro ⟨⟨place, held⟩, member, warned⟩
    obtain ⟨invalid, same⟩ := (warning?_eq_some_iff place held _).mp warned
    obtain ⟨rfl, rfl⟩ := LogEntry.zeroed.inj same
    exact ⟨member, invalid⟩
  · rintro ⟨member, invalid⟩
    exact ⟨(index, cell), member, (warning?_eq_some_iff index cell _).mpr ⟨invalid, rfl⟩⟩

private theorem mem_cells_of_mem_calls {record : Record} {call : Nat × Text}
    (member : call ∈ record.calls) : call.2 ∈ record.cells := by
  rw [← Array.mem_toList_iff, ← record.calls_cells]
  exact List.mem_map_of_mem member

/-- All cells are handled by a pass that has results. -/
theorem handled_calls_of_compile {record : Record} {results : Results}
    (compiled : record.compile = .ok results) : record.handled record.calls = record.calls := by
  rw [handled, List.takeWhile_eq_self_iff]
  intro call member
  obtain ⟨value, succeeded⟩ := record.exists_compile_eq_ok_iff.mp ⟨results, compiled⟩ call.2
    (mem_cells_of_mem_calls member)
  rw [succeeded]
  rfl

end Record

end FlatSheet
