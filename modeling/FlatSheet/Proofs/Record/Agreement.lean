import FlatSheet.Proofs.Record.Outcomes
import FlatSheet.Proofs.Record.Pass

/-! # Cells in another spelling

A record may be written with other cells that hold the same. If each cell is read as the same number
and has the same content as before, then the record is evaluated as before. The one difference that
can show is in a fault over a cell that is no number, because it quotes the cell as it is spelled.
-/

namespace FlatSheet

/-- Two outcomes that are the same up to how a cell that is no number is spelled. -/
inductive Agree {α : Type} (Spelled : Text → Text → Prop) : Except Fault α → Except Fault α → Prop
  | same (outcome : Except Fault α) : Agree Spelled outcome outcome
  | notNumeric {cell other : Text} (spelled : Spelled cell other) :
      Agree Spelled (.error (.notNumeric cell)) (.error (.notNumeric other))

/-- Spelling a cell otherwise changes neither its number nor its content. -/
structure Respelling (Spelled : Text → Text → Prop) : Prop where
  number {cell other : Text} (spelled : Spelled cell other) :
    Number.parse? other = Number.parse? cell
  content {cell other : Text} (spelled : Spelled cell other) :
    Content.classify other = Content.classify cell

variable {α β : Type} {Spelled : Text → Text → Prop}

theorem Agree.bind {first second : Except Fault α} (agree : Agree Spelled first second)
    {next other : α → Except Fault β} (onward : ∀ value, Agree Spelled (next value) (other value)) :
    Agree Spelled (first >>= next) (second >>= other) := by
  cases agree with
  | same =>
    cases first with
    | error fault => exact .same _
    | ok value => exact onward value
  | notNumeric spelled => exact .notNumeric spelled

private theorem agree_stepwise : Stepwise (Agree Spelled) where
  refl := .same
  bind agree onward := agree.bind onward

private theorem Agree.map {first second : Except Fault α} (agree : Agree Spelled first second)
    (f : α → β) :
    Agree Spelled (first.map f) (second.map f) := by
  cases agree with
  | same => exact .same _
  | notNumeric spelled => exact .notNumeric spelled

theorem Agree.mapM {cells others : List Text} (spelled : List.Forall₂ Spelled cells others)
    {f g : Text → Except Fault α}
    (each : ∀ {cell other : Text}, Spelled cell other → Agree Spelled (f cell) (g other)) :
    Agree Spelled (cells.mapM f) (others.mapM g) := by
  induction spelled with
  | nil => exact .same _
  | cons here _ ih =>
    rw [List.mapM_cons, List.mapM_cons]
    refine (each here).bind fun value => ?_
    exact ih.bind fun values => .same _

namespace Record

variable {first second : Record}
  (spelled : List.Forall₂ Spelled first.cells.toList second.cells.toList)

include spelled

theorem size_of_respelled : second.size = first.size := by
  simpa [size] using spelled.length_eq.symm

private theorem cell?_of_respelled (index : Nat) :
    Option.Rel Spelled (first.cell? index) (second.cell? index) := by
  rw [cell?, cell?, ← Array.getElem?_toList, ← Array.getElem?_toList]
  generalize first.cells.toList = cells, second.cells.toList = others at spelled ⊢
  induction spelled generalizing index with
  | nil => exact .none
  | cons here _ ih =>
    cases index with
    | zero => exact .some here
    | succ index => exact ih index

private theorem slice?_of_respelled (start stop : Nat) :
    Option.Rel (List.Forall₂ Spelled) (first.slice? start stop) (second.slice? start stop) := by
  rw [slice?, slice?, size_of_respelled spelled]
  split
  · rw [Array.toList_extract, Array.toList_extract]
    exact .some (List.forall₂_take _ (List.forall₂_drop _ spelled))
  · exact .none

variable (respelling : Respelling Spelled)

include respelling

omit spelled in
theorem number_agree {cell other : Text} (spelled : Spelled cell other) :
    Agree Spelled (number cell) (number other) := by
  rw [number, number, respelling.number spelled]
  cases Number.parse? cell with
  | some value => exact .same _
  | none => exact .notNumeric spelled

private theorem valueAt_agree (text : Text) :
    Agree Spelled (first.valueAt text) (second.valueAt text) := by
  refine (Agree.same _).bind fun reference => ?_
  have related := cell?_of_respelled spelled reference.column
  rw [size_of_respelled spelled]
  generalize first.cell? reference.column = found, second.cell? reference.column = other
    at related ⊢
  cases related with
  | none => exact .same _
  | some here => exact number_agree respelling here

private theorem rangeValues_agree (start stop : Text) :
    Agree Spelled (first.rangeValues start stop) (second.rangeValues start stop) := by
  refine (Agree.same _).bind fun low => (Agree.same _).bind fun high => ?_
  have related := slice?_of_respelled spelled low.column high.column
  rw [size_of_respelled spelled]
  split
  · exact .same _
  · generalize first.slice? low.column high.column = found,
      second.slice? low.column high.column = other at related ⊢
    cases related with
    | none => exact .same _
    | some here => exact Agree.mapM here (number_agree respelling)

private theorem evaluate_agree (content : Content) :
    Agree Spelled (first.evaluate content) (second.evaluate content) := by
  refine agree_stepwise.evaluate (valueAt_agree spelled respelling)
    (rangeValues_agree spelled respelling) ?_
  intro function arguments _ values
  rw [size_of_respelled spelled]
  exact .same _

/-- Records agree in their values when their cells are spellings of each other. -/
theorem compile_agree : Agree Spelled first.compile second.compile := by
  rw [compile_eq_mapM, compile_eq_mapM]
  apply Agree.map
  apply Agree.mapM spelled
  intro cell other here
  rw [valueOf, valueOf, respelling.content here]
  exact (Agree.same (Content.classify cell)).bind (evaluate_agree spelled respelling)

end Record

end FlatSheet
