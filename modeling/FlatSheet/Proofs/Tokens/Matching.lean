import FlatSheet.Proofs.Text.Pattern
import FlatSheet.Proofs.Text.Trimming
import FlatSheet.Proofs.Tokens.Grammar
import FlatSheet.Record.Basic

/-! # Cells as matches of a pattern

A pattern with ordered choice says what a cell is: plain characters and quoted runs. Within quotes a
backslash matches on its own as well as together with the character after it, so where a run ends
depends on which choice is undone first. The matcher undoes the latest one, and that leads to the
first quote that is not escaped, or else to the last quote of all. Hence the preferred matches in a
text from left to right are the cells that its segments form.
-/

namespace FlatSheet

namespace Tokens

/-- A character of a cell outside of quotes. -/
def plainPattern : Pattern := .char fun char => !(isBlank char || char == '"' || char == ',')

def quotePattern : Pattern := .char (· == '"')

/-- A backslash and the character after it, which may be a quote but not a newline. -/
def escapePattern : Pattern := .seq (.char (· == '\\')) (.char (· != '\n'))

/-- One step within quotes: an escaped character, or else any character but a quote. -/
def bodyPattern : Pattern := .alt escapePattern (.char (· != '"'))

def runPattern : Pattern := .seq quotePattern (.seq (.star bodyPattern) quotePattern)

def piecePattern : Pattern := .alt plainPattern runPattern

/-- The cells of a text match this pattern. -/
def cellPattern : Pattern := piecePattern.plus

private theorem bodyPattern_consumes : bodyPattern.Consumes := ⟨.inl trivial, trivial⟩

theorem piecePattern_consumes : piecePattern.Consumes := ⟨trivial, .inl trivial⟩

private theorem rests_bodyPattern_plain {char : Char} (notQuote : char ≠ '"')
    (notEscape : char ≠ '\\')
    (rest : Text) : bodyPattern.rests (char :: rest) = [rest] := by
  simp [bodyPattern, escapePattern, Pattern.rests, notQuote, notEscape]

private theorem rests_bodyPattern_backslash : bodyPattern.rests ['\\'] = [[]] := rfl

private theorem rests_bodyPattern_newline (rest : Text) :
    bodyPattern.rests ('\\' :: '\n' :: rest) = ['\n' :: rest] := rfl

/-- An escaped character is tried before a backslash on its own. -/
theorem rests_bodyPattern_pair {next : Char} (other : next ≠ '\n') (rest : Text) :
    bodyPattern.rests ('\\' :: next :: rest) = [rest, next :: rest] := by
  simp [bodyPattern, escapePattern, Pattern.rests, other]

theorem bodyLength?_plain {char : Char} (notQuote : char ≠ '"') (notEscape : char ≠ '\\')
    (rest : Text) : bodyLength? (char :: rest) = (bodyLength? rest).map (· + 1) := by
  rw [bodyLength?, bodyLength?, unescapedQuote?_plain notQuote notEscape, Option.map_or,
    finalQuote?]
  cases finalQuote? rest <;> simp [notQuote]

/-- An escaped quote ends a run only if no quote comes later. -/
theorem bodyLength?_pair (next : Char) (rest : Text) :
    bodyLength? ('\\' :: next :: rest) =
      ((bodyLength? rest).map (· + 2)).or ((bodyLength? (next :: rest)).map (· + 1)) := by
  rw [bodyLength?, unescapedQuote?_pair]
  cases first : unescapedQuote? rest with
  | some index => simp [bodyLength?, first]
  | none =>
    cases last : finalQuote? rest with
    | some index => simp [bodyLength?, finalQuote?, first, last]
    | none =>
      have noQuote := (finalQuote?_eq_none_iff rest).mp last
      by_cases quote : next = '"'
      · subst quote
        simp [bodyLength?, finalQuote?, unescapedQuote?, first, last]
      · have none := (bodyLength?_eq_none_iff (next :: rest)).mpr (by simp [noQuote, Ne.symm quote])
        simp [bodyLength?, finalQuote?, first, last, quote] at none ⊢
        simp [none]

private theorem bodyLength?_newline (rest : Text) :
    bodyLength? ('\\' :: '\n' :: rest) = (bodyLength? ('\n' :: rest)).map (· + 1) := by
  rw [bodyLength?_pair, bodyLength?_plain (by decide) (by decide)]
  cases bodyLength? rest <;> rfl

/-- What a match of the body of a run and of its closing quote leaves. -/
def runEnd : Pattern := .seq (.star bodyPattern) quotePattern

private theorem rest?_runEnd_eq (text : Text) :
    runEnd.rest? text =
      ((bodyPattern.rests text).findSome? runEnd.rest?).or (quotePattern.rest? text) :=
  Pattern.rest?_seq_star bodyPattern_consumes quotePattern text

/-- The preferred end of a run is the first quote that is not escaped, or else the last quote. -/
theorem rest?_runEnd (text : Text) :
    runEnd.rest? text = (bodyLength? text).map fun length => text.drop (length + 1) := by
  induction length : text.length using Nat.strongRecOn generalizing text with
  | ind size ih =>
    subst length
    rw [rest?_runEnd_eq]
    match text with
    | [] => rfl
    | char :: rest =>
      by_cases quote : char = '"'
      · subst quote
        rfl
      · have refused : quotePattern.rest? (char :: rest) = none := by
          simp [quotePattern, Pattern.rest?_char_cons, quote]
        rw [refused, Option.or_none]
        by_cases escape : char = '\\'
        · subst escape
          match rest with
          | [] =>
            rw [rests_bodyPattern_backslash, List.findSome?_singleton, ih 0 (by simp) [] rfl]
            rfl
          | next :: after =>
            by_cases newline : next = '\n'
            · subst newline
              rw [rests_bodyPattern_newline, List.findSome?_singleton, ih _ (by simp) _ rfl,
                bodyLength?_newline, Option.map_map]
              rfl
            · rw [rests_bodyPattern_pair newline, List.findSome?_cons, List.findSome?_singleton,
                ih after.length (by simp only [List.length_cons]; omega) _ rfl,
                ih _ (by simp) _ rfl, bodyLength?_pair]
              cases bodyLength? after <;> cases bodyLength? (next :: after) <;> rfl
        · rw [rests_bodyPattern_plain quote escape, List.findSome?_singleton, ih _ (by simp) _ rfl,
            bodyLength?_plain quote escape, Option.map_map]
          rfl

theorem rest?_plainPattern (char : Char) (rest : Text) :
    plainPattern.rest? (char :: rest) =
      if isSeparator char || char == '"' then none else some rest := by
  rw [plainPattern, Pattern.rest?_char_cons, isSeparator]
  cases isBlank char <;> cases char == '"' <;> cases char == ',' <;> rfl

theorem rest?_runPattern (char : Char) (rest : Text) :
    runPattern.rest? (char :: rest) =
      if char == '"' then (bodyLength? rest).map fun length => rest.drop (length + 1)
      else none := by
  rw [← rest?_runEnd, runPattern, Pattern.rest?_seq, quotePattern, Pattern.rests]
  split
  · exact List.findSome?_singleton
  · rfl

/-- Neither a separator nor a stray quote starts a match. -/
theorem rest?_piecePattern_gap {char : Char} {list : List Segment}
    (orderly : Orderly (.gap char :: list)) : piecePattern.rest? (char :: spell list) = none := by
  rw [piecePattern, Pattern.rest?_alt, rest?_plainPattern, rest?_runPattern]
  cases orderly with
  | gap separator orderly => simp [separator, ne_quote_of_isSeparator separator]
  | stray last orderly => simp [(bodyLength?_eq_none_iff _).mpr last]

/-- Any other segment is the preferred match of a piece. -/
theorem rest?_piecePattern_solid {segment : Segment} {list : List Segment}
    (orderly : Orderly (segment :: list)) (solid : segment.isGap = false) :
    piecePattern.rest? (spell (segment :: list)) = some (spell list) := by
  cases segment with
  | gap char => contradiction
  | plain char =>
    cases orderly with
    | plain notSeparator notQuote _ =>
      change piecePattern.rest? (char :: spell list) = _
      simp [piecePattern, Pattern.rest?_alt, rest?_plainPattern, notSeparator, notQuote]
  | run body =>
    rw [spell_run, piecePattern, Pattern.rest?_alt, rest?_plainPattern, rest?_runPattern,
      orderly.bodyLength?_eq]
    simp

/-- A cell goes on as far as its group of segments. -/
theorem rest?_star_piecePattern {group list : List Segment} (orderly : Orderly (group ++ list))
    (solid : ∀ segment ∈ group, segment.isGap = false)
    (ended : ∀ segment ∈ list.head?, segment.isGap = true) :
    (Pattern.star piecePattern).rest? (spell (group ++ list)) = some (spell list) := by
  induction group with
  | nil =>
    have refused : piecePattern.rest? (spell list) = none := by
      cases list with
      | nil => rfl
      | cons segment list =>
        cases segment with
        | gap char => exact rest?_piecePattern_gap orderly
        | plain char => exact absurd (ended _ rfl) nofun
        | run body => exact absurd (ended _ rfl) nofun
    rw [List.nil_append, Pattern.rest?_star piecePattern_consumes, refused]
    rfl
  | cons segment group ih =>
    rw [List.forall_mem_cons] at solid
    rw [List.cons_append] at orderly ⊢
    rw [Pattern.rest?_star piecePattern_consumes, rest?_piecePattern_solid orderly solid.1,
      Option.bind_some, ih orderly.tail solid.2]
    rfl

/-- A group of segments and what follows it are matched one after the other. -/
theorem findAll_spell_group {group list : List Segment} (orderly : Orderly (group ++ list))
    (solid : ∀ segment ∈ group, segment.isGap = false) (nonempty : group ≠ [])
    (ended : ∀ segment ∈ list.head?, segment.isGap = true) :
    cellPattern.findAll (spell (group ++ list)) =
      spell group :: cellPattern.findAll (spell list) := by
  have found : cellPattern.rest? (spell (group ++ list)) = some (spell list) := by
    cases group with
    | nil => contradiction
    | cons segment group =>
      rw [List.forall_mem_cons] at solid
      rw [List.cons_append] at orderly ⊢
      rw [cellPattern, Pattern.rest?_plus piecePattern_consumes,
        rest?_piecePattern_solid orderly solid.1, Option.bind_some,
        rest?_star_piecePattern orderly.tail solid.2 ended]
  rw [spell_append] at found ⊢
  exact Pattern.findAll_append ((spell_eq_nil_iff group).not.mpr nonempty) found

/-- The matches in the text of orderly segments are the cells that these form. -/
theorem findAll_spell {list : List Segment} (orderly : Orderly list) :
    cellPattern.findAll (spell list) = cells list := by
  induction list, orderly using Orderly.group_induction with
  | nil => simp [spell, Pattern.findAll, cells, groups_nil]
  | gap char rest orderly ih =>
    have refused : cellPattern.rest? (char :: spell rest) = none := by
      rw [cellPattern, Pattern.rest?_plus piecePattern_consumes, rest?_piecePattern_gap orderly]
      rfl
    rw [cells, groups_gap, ← cells, ← ih]
    exact Pattern.findAll_cons_of_none refused
  | group group rest nonempty solid ended orderly ih =>
    rw [findAll_spell_group orderly solid nonempty ended, cells_group_append solid nonempty ended,
      ih]

/-- A segment of a cell starts and ends with a character that is not blank. -/
theorem Orderly.not_isBlank {list : List Segment} (orderly : Orderly list) {segment : Segment}
    (member : segment ∈ list) (solid : segment.isGap = false) :
    (∀ char ∈ segment.text.head?, isBlank char = false) ∧
      ∀ char ∈ segment.text.getLast?, isBlank char = false := by
  have quotes (body : Text) : (∀ char ∈ (Segment.run body).text.head?, isBlank char = false) ∧
      ∀ char ∈ (Segment.run body).text.getLast?, isBlank char = false := by
    constructor
    · rintro char ⟨⟩
      rfl
    · intro char last
      obtain rfl : '"' = char := by simpa [Segment.text, List.getLast?_cons] using last
      rfl
  induction orderly with
  | nil => contradiction
  | gap _ _ ih | stray _ _ ih =>
    rcases List.mem_cons.mp member with rfl | later
    · contradiction
    · exact ih later
  | plain notSeparator _ _ ih =>
    rcases List.mem_cons.mp member with rfl | later
    · have notBlank := (Bool.or_eq_false_iff.mp notSeparator).1
      simpa [Segment.text] using notBlank
    · exact ih later
  | closed _ _ ih | unclosed _ _ _ ih =>
    rcases List.mem_cons.mp member with rfl | later
    · exact quotes _
    · exact ih later

private theorem head?_spell_cons (segment : Segment) (rest : List Segment) :
    (spell (segment :: rest)).head? = segment.text.head? := by
  cases text : segment.text with
  | nil => exact absurd text segment.text_ne_nil
  | cons char more => simp [spell, text]

private theorem getLast?_spell_concat (front : List Segment) (segment : Segment) :
    (spell (front ++ [segment])).getLast? = segment.text.getLast? := by
  have single : spell [segment] = segment.text := by simp [spell]
  rw [spell_append, single, List.getLast?_append_of_ne_nil _ segment.text_ne_nil]

/-- A cell starts and ends with a character that is not blank. -/
theorem not_isBlank_of_mem_cells {list : List Segment} (orderly : Orderly list) {cell : Text}
    (member : cell ∈ cells list) :
    (∀ char ∈ cell.head?, isBlank char = false) ∧
      ∀ char ∈ cell.getLast?, isBlank char = false := by
  obtain ⟨group, inGroups, rfl⟩ := List.mem_map.mp member
  have ends {segment : Segment} (inGroup : segment ∈ group) :
      (∀ char ∈ segment.text.head?, isBlank char = false) ∧
        ∀ char ∈ segment.text.getLast?, isBlank char = false := by
    have inSolids : segment ∈ solids list :=
      groups_flatten list ▸ List.mem_flatten.mpr ⟨group, inGroups, inGroup⟩
    exact orderly.not_isBlank (List.mem_filter.mp inSolids).1
      (solid_of_mem_groups inGroups segment inGroup)
  constructor
  · cases group with
    | nil => simp [spell]
    | cons segment rest =>
      have first := (ends (List.mem_cons_self ..)).1
      rwa [← head?_spell_cons segment rest] at first
  · rcases List.eq_nil_or_concat group with rfl | ⟨front, segment, rfl⟩
    · simp [spell]
    · rw [List.concat_eq_append] at ends ⊢
      have last := (ends List.mem_concat_self).2
      rwa [← getLast?_spell_concat front segment] at last

/-- Trimming takes nothing off a cell. -/
theorem trim_of_mem_cells {list : List Segment} (orderly : Orderly list) {cell : Text}
    (member : cell ∈ cells list) : cell.trim = cell :=
  have ends := not_isBlank_of_mem_cells orderly member
  Text.trim_eq_self ⟨ends.1, ends.2⟩

end Tokens

namespace Record

/-- The record of the matches in a text, without the blanks at their ends and without empty ones. -/
def ofMatches (text : Text) : Except Fault Record :=
  match ((Tokens.cellPattern.findAll text).map Text.trim).filter fun cell => !cell.isEmpty with
  | [] => .error .noCells
  | cells => .ok (ofCells cells)

/-- The cells of a text are the preferred matches of their pattern from left to right, and these are
the groups of characters and runs that the separators part. -/
theorem ofText_eq_ofMatches_and_segments (text : Text) :
    ofText text = ofMatches text ∧
    Tokens.ofText text = Tokens.cellPattern.findAll text ∧
    Tokens.cellPattern.findAll text = Tokens.cells (Tokens.segments text) := by
  have orderly := Tokens.orderly_segments text
  have found : Tokens.cellPattern.findAll text = Tokens.cells (Tokens.segments text) := by
    simpa only [Tokens.spell_segments] using Tokens.findAll_spell orderly
  have trimmed : (Tokens.cells (Tokens.segments text)).map Text.trim =
      Tokens.cells (Tokens.segments text) := by
    conv_rhs => rw [← List.map_id (Tokens.cells _)]
    exact List.map_congr_left fun cell => Tokens.trim_of_mem_cells orderly
  have nonempty : (Tokens.cells (Tokens.segments text)).filter (fun cell => !cell.isEmpty) =
      Tokens.cells (Tokens.segments text) := by
    apply List.filter_eq_self.mpr
    intro cell member
    simpa using Tokens.ne_nil_of_mem_cells member
  refine ⟨?_, ?_, found⟩
  · rw [ofMatches, found, trimmed, nonempty, ← Tokens.ofText_eq_cells]
    rfl
  · rw [Tokens.ofText_eq_cells, found]

end Record

end FlatSheet
