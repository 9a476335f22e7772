import FlatSheet.CommandLine.Message
import FlatSheet.Proofs.Number.Display
import FlatSheet.Proofs.Record.Pass
import FlatSheet.Proofs.Record.Wire

/-! # Printed results as a record

The texts of whole numbers are cells without separators, quotes or equals signs. So in a text of
them every cell is a literal, and the pass over it gives the numbers again, zeros without their
sign. The texts of these are the same as before.
-/

namespace FlatSheet

open Binary64 Number

/-- A text of a whole number has no character that cells are cut or told apart by. -/
theorem Number.plain_of_mem_display {number : Float} (whole : IsWhole number) {char : Char}
    (member : char ∈ display number) :
    Tokens.isSeparator char = false ∧ char ≠ '"' ∧ char ≠ '=' := by
  rcases mem_display whole member with rfl | isDigit
  · decide
  · have notComma : char ≠ ',' := by rintro rfl; contradiction
    refine ⟨?_, ?_, ?_⟩
    · simp [Tokens.isSeparator, not_isBlank_of_isDigit isDigit, notComma]
    · rintro rfl; contradiction
    · rintro rfl; contradiction

private theorem Number.encodes_display {number : Float} (whole : IsWhole number) :
    Encodes (display number) (display number) :=
  .bare (display_ne_nil number) (fun _ member => (plain_of_mem_display whole member).1)
    (fun quote => (plain_of_mem_display whole quote).2.1 rfl)

private theorem Content.classify_display {number : Float} (whole : IsWhole number) :
    classify (display number) = .ok (.literal (unsignedZero number)) := by
  have read := integerPrefix?_display whole
  obtain ⟨first, rest, shown⟩ := List.exists_cons_of_ne_nil (display_ne_nil number)
  have member : first ∈ display number := by simp [shown]
  obtain ⟨-, noQuote, noEquals⟩ := plain_of_mem_display whole member
  rw [shown] at read ⊢
  exact classify_eq_literal noQuote noEquals read

namespace Results

/-- Whole numbers only. -/
def AllWhole (results : Results) : Prop := ∀ value ∈ results.values, IsWhole value

instance (results : Results) : Decidable results.AllWhole :=
  inferInstanceAs (Decidable (∀ value ∈ results.values, IsWhole value))

/-- The results with the signs taken off the zeros. -/
def unsigned (results : Results) : Results := { values := results.values.map unsignedZero }

/-- The sign of a zero does not show. -/
theorem lines_unsigned (results : Results) : results.unsigned.lines = results.lines := by
  simp [unsigned, lines, Function.comp_def, display_unsignedZero]

theorem length_lines (results : Results) : results.lines.length = results.size := by
  simp [lines, size]

theorem lines_ne_nil (results : Results) (nonempty : 0 < results.size) : results.lines ≠ [] := by
  rwa [← List.length_pos_iff, length_lines]

/-- Texts of whole numbers are written as they are. -/
theorem encodes_of_mem_lines {results : Results} (whole : results.AllWhole) :
    ∀ line ∈ results.lines, Encodes line line := by
  rw [lines, List.forall_mem_map]
  exact fun value member => encodes_display (whole value (Array.mem_toList_iff.mp member))

end Results

namespace Record

/-- The pass over printed whole numbers gives these numbers. -/
theorem compile_lines {results : Results} (whole : results.AllWhole) :
    (ofCells results.lines).compile = .ok results.unsigned := by
  rw [compile_eq_ok_iff]
  intro index
  have cells : (ofCells results.lines).cell? index = results.values[index]?.map display := by
    simp [cell?, ofCells, Results.lines]
  have values : results.unsigned.values[index]? = results.values[index]?.map unsignedZero := by
    simp [Results.unsigned]
  rw [cells, values]
  cases here : results.values[index]? with
  | none => rfl
  | some value =>
    have present : IsWhole value := whole value (Array.mem_of_getElem? here)
    have classified := Content.classify_display present
    simp only [Option.map_some, valueOf, classified, Except.bind, evaluate]

/-- Cells that are written as they are, with separators around them, are a record of these cells. -/
theorem ofText_render {cells : List Text} (bare : ∀ cell ∈ cells, Encodes cell cell)
    (spacing : Tokens.Spacing) (fits : spacing.gaps.length + 1 = cells.length) :
    ofText (spacing.render cells) = .ok (ofCells cells) := by
  rw [ofText_eq_ok_iff, spacing.ofText_render_encodings (List.forall₂_same.mpr bare) fits]
  refine ⟨?_, rfl⟩
  rintro rfl
  contradiction

end Record

/-- An end of a line after each cell. -/
def Tokens.Spacing.lines (count : Nat) : Spacing where
  lead := []
  gaps := List.replicate count ['\n']
  trail := ['\n']
  separators := separators_replicate (by simp [isSeparator, isBlank]) count
  apart := by
    intro gap member
    simp [List.eq_of_mem_replicate member]

/-- One separator after each cell. -/
theorem Tokens.weave_replicate_append (separator : Text) (count : Nat) (cells : List Text)
    (fits : count + 1 = cells.length) :
    weave cells (List.replicate count separator) ++ separator =
      cells.flatMap (· ++ separator) := by
  induction cells generalizing count with
  | nil => simp at fits
  | cons cell rest ih =>
    cases count with
    | zero =>
      obtain rfl : rest = [] := by simpa using fits.symm
      simp [weave]
    | succ count =>
      rw [List.replicate_succ, weave, List.append_assoc, ih count (by simpa using fits),
        List.flatMap_cons]

private theorem Tokens.Spacing.render_lines (count : Nat) (cells : List Text)
    (fits : count + 1 = cells.length) :
    (lines count).render cells = CommandLine.renderLines cells := by
  rw [CommandLine.renderLines, ← weave_replicate_append _ count cells fits]
  rfl

/-- Cells that are written as they are, one to a line, are a record of these cells. -/
theorem Record.ofText_renderLines {cells : List Text} (bare : ∀ cell ∈ cells, Encodes cell cell)
    (nonempty : cells ≠ []) :
    ofText (CommandLine.renderLines cells) = .ok (ofCells cells) := by
  obtain ⟨cell, rest, rfl⟩ := List.exists_cons_of_ne_nil nonempty
  rw [← Tokens.Spacing.render_lines rest.length _ rfl]
  exact ofText_render bare _ (by simp [Tokens.Spacing.lines])

end FlatSheet
