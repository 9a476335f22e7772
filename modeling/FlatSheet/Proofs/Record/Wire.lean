import FlatSheet.Document
import FlatSheet.Proofs.Content.Classification
import FlatSheet.Proofs.Record.Agreement
import FlatSheet.Proofs.Tokens.Spacing

/-! # Records written as one text

Cells are written with commas between them. A formula goes into a pair of quotes, so that its own
commas and blanks stay inside; a cell without separators and quotes is written as it is. Reading the
text gives the cells as written, and these have the contents and the numbers that the cells have. A
fault over a cell that is no number is the only place where the quotes show.
-/

namespace FlatSheet

/-- How one cell is written: a formula in a pair of quotes, and a cell that needs none as it is. -/
inductive Encodes : Text → Text → Prop
  | quoted {formula : Text} (noQuote : '"' ∉ formula) (noEscape : '\\' ∉ formula) :
      Encodes ('=' :: formula) ('"' :: '=' :: formula ++ ['"'])
  | bare {cell : Text} (nonempty : cell ≠ [])
      (noSeparator : ∀ char ∈ cell, Tokens.isSeparator char = false) (noQuote : '"' ∉ cell) :
      Encodes cell cell

namespace Tokens

/-- A segment of a cell that is the same segment whatever follows it. -/
def Segment.Settled : Segment → Prop
  | .gap _ => False
  | .plain char => isSeparator char = false ∧ char ≠ '"'
  | .run body => Closed body

private theorem Segment.Settled.isGap_eq_false {segment : Segment} (settled : segment.Settled) :
    segment.isGap = false := by
  cases segment with
  | gap char => exact settled.elim
  | plain char => rfl
  | run body => rfl

theorem orderly_of_settled {list : List Segment} (settled : ∀ segment ∈ list, segment.Settled) :
    Orderly list := by
  induction list with
  | nil => exact .nil
  | cons segment rest ih =>
    rw [List.forall_mem_cons] at settled
    cases segment with
    | gap char => exact settled.1.elim
    | plain char => exact .plain settled.1.1 settled.1.2 (ih settled.2)
    | run body => exact .closed settled.1 (ih settled.2)

/-- Where nothing is escaped, the next quote closes a run. -/
theorem closed_of_notMem {body : Text} (noQuote : '"' ∉ body) (noEscape : '\\' ∉ body) :
    Closed body := by
  rw [Closed]
  induction body with
  | nil => rfl
  | cons char body ih =>
    rw [List.mem_cons, not_or] at noQuote noEscape
    rw [List.cons_append, unescapedQuote?_plain (Ne.symm noQuote.1) (Ne.symm noEscape.1),
      ih noQuote.2 noEscape.2]
    rfl

end Tokens

open Tokens

/-- A written cell is one group of settled segments: one run, or plain characters only. -/
theorem Encodes.settled_segments {cell encoding : Text} (encodes : Encodes cell encoding) :
    segments encoding ≠ [] ∧ ∀ segment ∈ segments encoding, segment.Settled := by
  obtain ⟨part, spelled, nonempty, settled⟩ :
      ∃ part, spell part = encoding ∧ part ≠ [] ∧ ∀ segment ∈ part, segment.Settled := by
    cases encodes with
    | @quoted formula noQuote noEscape =>
      have closed : Closed ('=' :: formula) :=
        closed_of_notMem (by simp [noQuote]) (by simp [noEscape])
      refine ⟨[.run ('=' :: formula)], by simp [spell, Segment.text], by simp, ?_⟩
      simpa [Segment.Settled] using closed
    | bare nonempty noSeparator noQuote =>
      refine ⟨cell.map .plain, ?_, by simpa using nonempty, ?_⟩
      · simp [spell, Segment.text, List.flatMap_map]
      · intro segment member
        obtain ⟨char, present, rfl⟩ := List.mem_map.mp member
        exact ⟨noSeparator char present, fun quote => noQuote (quote ▸ present)⟩
  rw [← spelled, (orderly_of_settled settled).segments_spell]
  exact ⟨nonempty, settled⟩

/-- Cells that are written with separators around them are read as written. -/
theorem Tokens.Spacing.ofText_render_encodings (spacing : Spacing) {cells encodings : List Text}
    (encodes : List.Forall₂ Encodes cells encodings)
    (fits : spacing.gaps.length + 1 = encodings.length) :
    Tokens.ofText (spacing.render encodings) = encodings := by
  have parts : ∀ part ∈ encodings.map Tokens.segments,
      part ≠ [] ∧ ∀ segment ∈ part, segment.Settled := by
    clear fits
    induction encodes with
    | nil => simp
    | cons here _ ih => exact List.forall_mem_cons.mpr ⟨here.settled_segments, ih⟩
  have settled : ∀ segment ∈ (encodings.map Tokens.segments).flatten, segment.Settled := by
    intro segment member
    obtain ⟨part, present, inside⟩ := List.mem_flatten.mp member
    exact (parts part present).2 segment inside
  have spelled : (encodings.map Tokens.segments).map spell = encodings := by
    simp [Function.comp_def, spell_segments]
  have read := spacing.ofText_render
    (fun part member segment inside => ((parts part member).2 segment inside).isGap_eq_false)
    (fun part member => (parts part member).1)
    (orderly_of_settled settled) (by rwa [List.length_map])
  rwa [spelled] at read

/-- Cells that are written with commas between them are read as written. -/
theorem Tokens.ofText_join_encodings {cells encodings : List Text}
    (encodes : List.Forall₂ Encodes cells encodings) (nonempty : encodings ≠ []) :
    Tokens.ofText (Text.join [','] encodings) = encodings := by
  obtain ⟨encoding, rest, rfl⟩ := List.exists_cons_of_ne_nil nonempty
  rw [← Spacing.render_commas rest.length _ rfl]
  exact (Spacing.commas rest.length).ofText_render_encodings encodes (by simp [Spacing.commas])

/-- Quotes around a formula change neither its content nor that it is no number. -/
theorem respelling_encodes : Respelling Encodes where
  number := by
    rintro cell other (@⟨formula, -, -⟩ | -)
    · rw [List.cons_append, Number.parse?_cons_eq_none rfl (by decide) rfl (by decide),
        Number.parse?_cons_eq_none rfl (by decide) rfl (by decide)]
    · rfl
  content := by
    rintro cell other (@⟨formula, -, -⟩ | -)
    · rw [Content.classify, Content.classify, Content.unquoted_quoted]
      rfl
    · rfl

namespace Record

/-- Cells that are written as one text are read as written. Each has the content of its cell, and
the pass over them agrees with the pass over the cells. -/
theorem ofText_written {cells encodings : List Text}
    (encodes : List.Forall₂ Encodes cells encodings) (nonempty : cells ≠ []) :
    ofText (Text.join [','] encodings) = .ok (ofCells encodings) ∧
    List.Forall₂ (fun cell encoding => Content.classify encoding = Content.classify cell)
      cells encodings ∧
    ∃ document, Document.ofText (Text.join [','] encodings) = .ok document ∧
      Agree Encodes (ofCells cells).compile document.record.compile := by
  have written : encodings ≠ [] := by
    rintro rfl
    exact nonempty (List.forall₂_nil_right_iff.mp encodes)
  have read : ofText (Text.join [','] encodings) = .ok (ofCells encodings) := by
    rw [ofText_eq_ok_iff, Tokens.ofText_join_encodings encodes written]
    exact ⟨written, rfl⟩
  have contents : List.Forall₂
      (fun cell encoding => Content.classify encoding = Content.classify cell) cells encodings :=
    encodes.imp fun _ _ => respelling_encodes.content
  refine ⟨read, contents, ⟨ofCells encodings, none⟩, ?_, ?_⟩
  · rw [Document.ofText, read]
    rfl
  · exact compile_agree encodes respelling_encodes

/-- A formula that reads itself fails in both spellings, and quotes itself as it is spelled. -/
theorem ofText_written_self_reading :
    ∃ document, Document.ofText ("\"=SUM(A1, 2)\",7".toList) = .ok document ∧
      (ofCells ["=SUM(A1, 2)".toList, ['7']]).compile = .error (.notNumeric "=SUM(A1, 2)".toList) ∧
      document.record.compile = .error (.notNumeric "\"=SUM(A1, 2)\"".toList) ∧
      Agree Encodes (ofCells ["=SUM(A1, 2)".toList, ['7']]).compile document.record.compile := by
  have formula : Encodes ('=' :: "SUM(A1, 2)".toList)
      ('"' :: '=' :: "SUM(A1, 2)".toList ++ ['"']) := .quoted (by decide) (by decide)
  have number : Encodes ['7'] ['7'] :=
    .bare (by decide) (List.forall_mem_singleton.mpr rfl) (by decide)
  obtain ⟨-, -, document, read, agree⟩ :=
    ofText_written (.cons formula (.cons number .nil)) (List.cons_ne_nil _ _)
  have known : Document.ofText ("\"=SUM(A1, 2)\",7".toList) =
      .ok ⟨ofCells ["\"=SUM(A1, 2)\"".toList, ['7']], none⟩ := rfl
  obtain rfl := Except.ok.inj (known.symm.trans read)
  exact ⟨_, read, rfl, rfl, agree⟩

end Record

end FlatSheet
