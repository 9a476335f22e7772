import FlatSheet.Proofs.Tokens.Grammar
import FlatSheet.Record.Basic
import Mathlib.Tactic.Tauto

/-! # Cells between separators

Cells may be written out again with any separators around them. Orderly segments stay orderly when
their gaps are dropped, as a gap holds at most a quote that no run needs, and when separators are
put anywhere between them, as these hold no quote that a run could end at. So a text and any spacing
of its cells have the same cells.
-/

namespace FlatSheet

namespace Tokens

theorem mem_spell_iff (char : Char) (list : List Segment) :
    char ∈ spell list ↔ ∃ segment ∈ list, char ∈ segment.text := List.mem_flatMap

theorem solids_append (first second : List Segment) :
    solids (first ++ second) = solids first ++ solids second := List.filter_append ..

theorem solids_gaps (gap : Text) : solids (gap.map .gap) = [] := by simp [solids, Segment.isGap]

/-- Gaps may be dropped. -/
theorem Orderly.solids {list : List Segment} (orderly : Orderly list) : Orderly (solids list) := by
  have shrink {rest : List Segment} (last : '"' ∉ spell rest) :
      '"' ∉ spell (Tokens.solids rest) := by
    simp only [mem_spell_iff, Tokens.solids, List.mem_filter, not_exists, not_and] at last ⊢
    exact fun segment member => last segment member.1
  induction orderly with
  | nil => exact .nil
  | gap _ _ ih => exact ih
  | stray _ _ ih => exact ih
  | plain notSeparator notQuote _ ih => exact .plain notSeparator notQuote ih
  | closed closed _ ih => exact .closed closed ih
  | unclosed unclosed last _ ih => exact .unclosed unclosed (shrink last) ih

/-- Separators may be put anywhere between segments. -/
theorem orderly_of_solids {list : List Segment}
    (separators : ∀ char, .gap char ∈ list → isSeparator char = true)
    (orderly : Orderly (solids list)) : Orderly list := by
  have grow {rest : List Segment} (last : '"' ∉ spell (solids rest))
      (separators : ∀ char, .gap char ∈ rest → isSeparator char = true) : '"' ∉ spell rest := by
    simp only [mem_spell_iff, solids, List.mem_filter, not_exists, not_and, and_imp] at last ⊢
    intro segment member quote
    cases segment with
    | gap char =>
      obtain rfl : '"' = char := by simpa [Segment.text] using quote
      exact ne_quote_of_isSeparator (separators '"' member) rfl
    | plain char => exact last _ member rfl quote
    | run body => exact last _ member rfl quote
  induction list with
  | nil => exact .nil
  | cons segment rest ih =>
    have later : ∀ char, .gap char ∈ rest → isSeparator char = true :=
      fun char member => separators char (List.mem_cons_of_mem _ member)
    cases segment with
    | gap char => exact .gap (separators char (List.mem_cons_self ..)) (ih later orderly)
    | plain char =>
      cases orderly with
      | plain notSeparator notQuote orderly => exact .plain notSeparator notQuote (ih later orderly)
    | run body =>
      cases orderly with
      | closed closed orderly => exact .closed closed (ih later orderly)
      | unclosed unclosed last orderly =>
        exact .unclosed unclosed (grow last later) (ih later orderly)

/-- Gaps before the first group do not count. -/
theorem groups_gaps_append (gap : Text) (rest : List Segment) :
    groups (gap.map .gap ++ rest) = groups rest := by
  induction gap with
  | nil => rfl
  | cons char gap ih => rw [List.map_cons, List.cons_append, groups_gap, ih]

/-- A group ends where gaps follow it. -/
theorem groups_group_append {group : List Segment}
    (solid : ∀ segment ∈ group, segment.isGap = false) (nonempty : group ≠ []) {gap : Text}
    (apart : gap ≠ []) (rest : List Segment) :
    groups (group ++ gap.map .gap ++ rest) = group :: groups rest := by
  cases gap with
  | nil => contradiction
  | cons char gap =>
    rw [List.map_cons, List.append_assoc, List.cons_append, groups_solid_append_gap solid,
      groups_gaps_append]
    simp [nonempty]

/-- Parts with what stands between them, as long as there is something to put between. -/
def weave {α : Type} : List (List α) → List (List α) → List α
  | part :: parts, gap :: gaps => part ++ gap ++ weave parts gaps
  | parts, _ => parts.flatten

/-- What stands before the first cell, between neighbours and after the last cell. Neighbours are
apart. -/
structure Spacing where
  lead : Text
  gaps : List Text
  trail : Text
  separators : ∀ gap ∈ lead :: trail :: gaps, ∀ char ∈ gap, isSeparator char = true
  apart : ∀ gap ∈ gaps, gap ≠ []

/-- The text of cells with separators around them. -/
def Spacing.render (spacing : Spacing) (cells : List Text) : Text :=
  spacing.lead ++ weave cells spacing.gaps ++ spacing.trail

/-- The segments of cells with separators around them. -/
def Spacing.layOut (spacing : Spacing) (parts : List (List Segment)) : List Segment :=
  spacing.lead.map .gap ++ weave parts (spacing.gaps.map (List.map .gap)) ++ spacing.trail.map .gap

theorem spell_gaps (gap : Text) : spell (gap.map .gap) = gap := by
  induction gap with
  | nil => rfl
  | cons char gap ih => exact congrArg (char :: ·) ih

private theorem spell_flatten (parts : List (List Segment)) :
    spell parts.flatten = (parts.map spell).flatten := by
  induction parts with
  | nil => rfl
  | cons part parts ih => rw [List.flatten_cons, spell_append, ih, List.map_cons, List.flatten_cons]

private theorem spell_weave (parts : List (List Segment)) (gaps : List Text) :
    spell (weave parts (gaps.map (List.map .gap))) = weave (parts.map spell) gaps := by
  induction parts generalizing gaps with
  | nil => simp [weave, spell]
  | cons part parts ih =>
    cases gaps with
    | nil => exact spell_flatten (part :: parts)
    | cons gap gaps => simp [weave, spell_append, spell_gaps, ih]

private theorem Spacing.spell_layOut (spacing : Spacing) (parts : List (List Segment)) :
    spell (spacing.layOut parts) = spacing.render (parts.map spell) := by
  rw [layOut, spell_append, spell_append, spell_gaps, spell_gaps, spell_weave, render]

private theorem mem_weave {α : Type} {item : α} {parts gaps : List (List α)}
    (member : item ∈ weave parts gaps) :
    (∃ part ∈ parts, item ∈ part) ∨ ∃ gap ∈ gaps, item ∈ gap := by
  induction parts generalizing gaps with
  | nil => simp [weave] at member
  | cons part parts ih =>
    cases gaps with
    | nil => exact .inl (List.mem_flatten.mp member)
    | cons gap gaps =>
      simp only [weave, List.mem_append] at member
      rcases member with (inPart | inGap) | later
      · exact .inl ⟨part, List.mem_cons_self .., inPart⟩
      · exact .inr ⟨gap, List.mem_cons_self .., inGap⟩
      · exact (ih later).imp (fun ⟨other, present, inside⟩ => ⟨other, .tail _ present, inside⟩)
          (fun ⟨other, present, inside⟩ => ⟨other, .tail _ present, inside⟩)

section Layout

variable {parts : List (List Segment)}
  (solid : ∀ part ∈ parts, ∀ segment ∈ part, segment.isGap = false)

include solid

/-- Only separators are put around cells. -/
theorem Spacing.isSeparator_of_mem_layOut (spacing : Spacing) {char : Char}
    (member : .gap char ∈ spacing.layOut parts) : isSeparator char = true := by
  have inGap {gap : Text} (ofSpacing : gap ∈ spacing.lead :: spacing.trail :: spacing.gaps)
      (present : Segment.gap char ∈ gap.map .gap) : isSeparator char = true := by
    obtain ⟨other, inside, same⟩ := List.mem_map.mp present
    obtain rfl := Segment.gap.inj same
    exact spacing.separators gap ofSpacing other inside
  rcases List.mem_append.mp member with front | atTrail
  · rcases List.mem_append.mp front with atLead | between
    · exact inGap (by simp) atLead
    · rcases mem_weave between with ⟨part, ofParts, present⟩ | ⟨gap, ofGaps, present⟩
      · exact absurd (solid part ofParts _ present) (by simp [Segment.isGap])
      · obtain ⟨gap, ofSpacing, rfl⟩ := List.mem_map.mp ofGaps
        exact inGap (by simp [ofSpacing]) present
  · exact inGap (by simp) atTrail

private theorem solids_weave (gaps : List Text) :
    solids (weave parts (gaps.map (List.map .gap))) = parts.flatten := by
  induction parts generalizing gaps with
  | nil => rfl
  | cons part parts ih =>
    cases gaps with
    | nil =>
      apply List.filter_eq_self.mpr
      intro segment member
      obtain ⟨other, ofParts, present⟩ := List.mem_flatten.mp member
      simpa using solid other ofParts segment present
    | cons gap gaps =>
      rw [List.forall_mem_cons] at solid
      have kept : solids part = part := by simpa [solids] using solid.1
      rw [List.map_cons, weave, solids_append, solids_append, solids_gaps, kept, ih solid.2,
        List.append_nil, List.flatten_cons]

/-- Nothing but gaps is put around the parts. -/
theorem Spacing.solids_layOut (spacing : Spacing) :
    solids (spacing.layOut parts) = parts.flatten := by
  rw [layOut, solids_append, solids_append, solids_gaps, solids_gaps, solids_weave solid,
    List.append_nil, List.nil_append]

private theorem groups_weave (nonempty : ∀ part ∈ parts, part ≠ []) {gaps : List Text}
    (apart : ∀ gap ∈ gaps, gap ≠ []) (fits : gaps.length + 1 = parts.length) (trail : Text) :
    groups (weave parts (gaps.map (List.map .gap)) ++ trail.map .gap) = parts := by
  induction parts generalizing gaps with
  | nil => simp at fits
  | cons part parts ih =>
    rw [List.forall_mem_cons] at solid nonempty
    cases gaps with
    | nil =>
      obtain rfl : parts = [] := by simpa using fits.symm
      cases trail with
      | nil => simp [weave, groups_solid solid.1, nonempty.1]
      | cons char trail =>
        have ended := groups_group_append solid.1 nonempty.1 (List.cons_ne_nil char trail) []
        simpa [weave, groups, List.splitOnP_nil] using ended
    | cons gap gaps =>
      rw [List.forall_mem_cons] at apart
      rw [List.map_cons, weave, List.append_assoc, groups_group_append solid.1 nonempty.1 apart.1,
        ih solid.2 nonempty.2 apart.2 (by simpa using fits)]

/-- The groups of segments that were laid out are the parts. -/
theorem Spacing.groups_layOut (spacing : Spacing) (nonempty : ∀ part ∈ parts, part ≠ [])
    (fits : spacing.gaps.length + 1 = parts.length) : groups (spacing.layOut parts) = parts := by
  rw [layOut, List.append_assoc, groups_gaps_append,
    groups_weave solid nonempty spacing.apart fits]

/-- Orderly parts that are written out with separators around them are read back. -/
theorem Spacing.ofText_render (spacing : Spacing) (nonempty : ∀ part ∈ parts, part ≠ [])
    (orderly : Orderly parts.flatten) (fits : spacing.gaps.length + 1 = parts.length) :
    ofText (spacing.render (parts.map spell)) = parts.map spell := by
  have laidOut : Orderly (spacing.layOut parts) := by
    apply orderly_of_solids fun char => spacing.isSeparator_of_mem_layOut solid
    rwa [spacing.solids_layOut solid]
  rw [ofText_eq_cells, ← spacing.spell_layOut, laidOut.segments_spell, cells,
    spacing.groups_layOut solid nonempty fits]

end Layout

/-- The cells of a text are read back from any text that spaces them. -/
theorem Spacing.ofText_render_ofText (spacing : Spacing) (text : Text)
    (fits : spacing.gaps.length + 1 = (ofText text).length) :
    ofText (spacing.render (ofText text)) = ofText text := by
  rw [ofText_eq_cells text, cells] at fits ⊢
  apply spacing.ofText_render
  · exact fun _ => solid_of_mem_groups
  · exact fun _ => ne_nil_of_mem_groups
  · rw [groups_flatten]
    exact (orderly_segments text).solids
  · simpa using fits

/-- One separator may stand between all neighbours. -/
theorem separators_replicate {lead separator trail : Text}
    (all : ∀ gap ∈ [lead, separator, trail], ∀ char ∈ gap, isSeparator char = true) (count : Nat) :
    ∀ gap ∈ lead :: trail :: List.replicate count separator, ∀ char ∈ gap,
      isSeparator char = true := by
  intro gap member
  apply all
  simp only [List.mem_cons, List.mem_replicate] at member ⊢
  tauto

/-- One comma between neighbours. -/
def Spacing.commas (count : Nat) : Spacing where
  lead := []
  gaps := List.replicate count [',']
  trail := []
  separators := separators_replicate (by simp [isSeparator, isBlank]) count
  apart := by
    intro gap member
    simp [List.eq_of_mem_replicate member]

/-- Weaving with one separator only is joining. -/
theorem weave_replicate (separator : Text) (count : Nat) (cells : List Text)
    (fits : count + 1 = cells.length) :
    weave cells (List.replicate count separator) = Text.join separator cells := by
  rw [Text.join]
  induction cells generalizing count with
  | nil => simp at fits
  | cons cell rest ih =>
    cases rest with
    | nil =>
      obtain rfl : count = 0 := by simpa using fits
      simp [weave]
    | cons next rest =>
      obtain ⟨before, rfl⟩ : ∃ before, count = before + 1 := ⟨rest.length, by simpa using fits⟩
      rw [List.replicate_succ, weave, ih before (by simpa using fits), List.intercalate_cons_cons]

theorem Spacing.render_commas (count : Nat) (cells : List Text) (fits : count + 1 = cells.length) :
    (commas count).render cells = Text.join [','] cells := by
  rw [render, ← weave_replicate _ count cells fits]
  simp [commas]

/-- Joining the cells of a text by commas gives a text with the same cells, also when there is no
cell. -/
theorem ofText_join_ofText (text : Text) :
    ofText (Text.join [','] (ofText text)) = ofText text := by
  cases read : ofText text with
  | nil => rfl
  | cons cell rest =>
    have fits : (Spacing.commas rest.length).gaps.length + 1 = (ofText text).length := by
      rw [read]
      simp [Spacing.commas]
    have again := (Spacing.commas rest.length).ofText_render_ofText text fits
    rwa [read, Spacing.render_commas _ _ rfl] at again

end Tokens

namespace Record

/-- A text with cells is the record of these. -/
theorem ofText_eq_ok_iff (text : Text) (record : Record) :
    ofText text = .ok record ↔ Tokens.ofText text ≠ [] ∧ ofCells (Tokens.ofText text) = record := by
  cases cells : Tokens.ofText text <;> simp [ofText, cells]

/-- A record is read back from any text that spaces its cells, in particular from its cells with
commas between them, and joining the cells of any text by commas keeps them. -/
theorem ofText_spaced (text : Text) :
    (∀ record, ofText text = .ok record → ∀ spacing : Tokens.Spacing,
      spacing.gaps.length + 1 = record.size →
        ofText (spacing.render record.cells.toList) = .ok record) ∧
    (∀ record, ofText text = .ok record →
      ofText (Text.join [','] record.cells.toList) = .ok record) ∧
    Tokens.ofText (Text.join [','] (Tokens.ofText text)) = Tokens.ofText text := by
  refine ⟨?_, ?_, Tokens.ofText_join_ofText text⟩
  · intro record read spacing fits
    rw [ofText_eq_ok_iff] at read ⊢
    obtain ⟨nonempty, rfl⟩ := read
    have again := spacing.ofText_render_ofText text (by simpa [size, ofCells] using fits)
    rw [ofCells, List.toList_toArray, again]
    exact ⟨nonempty, rfl⟩
  · intro record read
    rw [ofText_eq_ok_iff] at read ⊢
    obtain ⟨nonempty, rfl⟩ := read
    rw [ofCells, List.toList_toArray, Tokens.ofText_join_ofText text]
    exact ⟨nonempty, rfl⟩

/-- The run of the first cell ends at an escaped quote, which is the last one of the text. -/
theorem ofText_spaced_escaped :
    ofText ("\t\"\\\"\n, b ".toList) = .ok (ofCells ["\"\\\"".toList, "b".toList]) := by
  have read : ofText ("\"\\\",b".toList) = .ok (ofCells ["\"\\\"".toList, "b".toList]) := by rfl
  let spacing : Tokens.Spacing :=
    { lead := ['\t'], gaps := [['\n', ',', ' ']], trail := [' ']
      separators := by simp [Tokens.isSeparator, isBlank]
      apart := by simp }
  exact (ofText_spaced _).1 _ read spacing rfl

end Record

end FlatSheet
