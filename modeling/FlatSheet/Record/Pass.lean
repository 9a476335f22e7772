import FlatSheet.Log
import FlatSheet.Record.Evaluation
import FlatSheet.Results

/-! # A pass over a record

A pass handles the cells of a record in order. Handling a cell classifies it and evaluates what it
holds; this depends on the record and the cell alone, while the index only shows in the log. The
first fault ends the pass, and then there are no results.
-/

namespace FlatSheet

/-- What handling one cell leaves: its part of the log and its value. -/
structure Handled where
  log : List LogEntry
  value : Except Fault Float

/-- What a pass leaves: its log up to the end or the first fault, and all results. -/
structure Pass where
  log : List LogEntry
  results : Except Fault Results

namespace Record

/-- Classifies a cell and evaluates its content. -/
def handle (record : Record) (index : Nat) (cell : Text) : Handled :=
  match Content.classify cell with
  | .error fault => { log := [], value := .error fault }
  | .ok content =>
    let warnings := if content = .invalid then [.zeroed index cell] else []
    { log := .classified index cell content :: warnings
      value := record.evaluate content }

/-- Handles a cell and adds its value to the results under way, which outlive a fault. -/
def process (record : Record) (index : Nat) (cell : Text) : ExceptT Fault (StateM Results) Unit := do
  let value ← (record.handle index cell).value
  modify fun results => results.push value

/-- Goes on with a pass at an index. The log so far is in reverse. -/
def passFrom (record : Record) (log : List LogEntry) (results : Results) (index : Nat) :
    List Text → Pass
  | [] => { log := log.reverse, results := .ok results }
  | cell :: rest =>
    let handled := record.handle index cell
    let log := handled.log.reverse ++ log
    match handled.value with
    | .error fault => { log := log.reverse, results := .error fault }
    | .ok value => record.passFrom log (results.push value) (index + 1) rest

/-- Handles every cell of a record in order. -/
def pass (record : Record) : Pass := record.passFrom [] .empty 0 record.cells.toList

/-- The results of a record, or the fault of its first cell that has one. -/
def compile (record : Record) : Except Fault Results := record.pass.results

end Record

end FlatSheet
