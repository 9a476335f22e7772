import FlatSheet.Record.Tokens

/-! # Segments of a text

A text falls into segments from left to right: separators, plain characters of cells and quoted
runs. The cells are what stands between the separators. This is the reading of a text character by
character, without counts and without cells under way, and `Tokens.ofText` computes it in one pass.
-/

namespace FlatSheet.Tokens

/-- A character between cells, a character of a cell outside of quotes, or a quoted run. -/
inductive Segment
  | gap (char : Char)
  | plain (char : Char)
  | run (body : Text)
  deriving DecidableEq, Repr

namespace Segment

/-- A segment as it stands in the text. -/
def text : Segment → Text
  | .gap char | .plain char => [char]
  | .run body => '"' :: body ++ ['"']

/-- Whether a segment stands between cells. -/
def isGap : Segment → Bool
  | .gap _ => true
  | .plain _ | .run _ => false

theorem text_ne_nil (segment : Segment) : segment.text ≠ [] := by
  cases segment <;> simp [text]

end Segment

/-- The index of the first quote that is not escaped. A backslash escapes the character after it,
unless that is a newline. -/
def unescapedQuote? : Text → Option Nat
  | [] => none
  | '"' :: _ => some 0
  | '\\' :: next :: rest =>
    if next == '\n' then (unescapedQuote? (next :: rest)).map (· + 1)
    else (unescapedQuote? rest).map (· + 2)
  | _ :: rest => (unescapedQuote? rest).map (· + 1)

/-- The index of the last quote. -/
def finalQuote? : Text → Option Nat
  | [] => none
  | char :: rest =>
    match finalQuote? rest with
    | some index => some (index + 1)
    | none => if char == '"' then some 0 else none

/-- The length of the body of a run whose opening quote was just read: up to the first quote that is
not escaped, or else up to the last one. -/
def bodyLength? (rest : Text) : Option Nat := (unescapedQuote? rest).or (finalQuote? rest)

/-- The segments of a text. A quote that no other quote follows is a gap. -/
def segments : Text → List Segment
  | [] => []
  | char :: rest =>
    if char == '"' then
      match bodyLength? rest with
      | some length => .run (rest.take length) :: segments (rest.drop (length + 1))
      | none => .gap char :: segments rest
    else if isSeparator char then .gap char :: segments rest
    else .plain char :: segments rest
termination_by text => text.length

/-- The segments that belong to cells. -/
def solids (list : List Segment) : List Segment := list.filter fun segment => !segment.isGap

/-- The text that segments spell. -/
def spell (segments : List Segment) : Text := segments.flatMap Segment.text

/-- The groups of segments that no gap parts. -/
def groups (segments : List Segment) : List (List Segment) :=
  (segments.splitOnP Segment.isGap).filter fun group => !group.isEmpty

/-- The cells that segments form: the text of each group. -/
def cells (segments : List Segment) : List Text := (groups segments).map spell

/-- A backslash and the character after it are passed over; a newline is no quote in any case. -/
theorem unescapedQuote?_pair (next : Char) (rest : Text) :
    unescapedQuote? ('\\' :: next :: rest) = (unescapedQuote? rest).map (· + 2) := by
  by_cases newline : next = '\n'
  · subst newline
    simp [unescapedQuote?, Function.comp_def]
  · simp [unescapedQuote?, newline]

/-- Quotes that are not escaped are quotes. -/
theorem unescapedQuote?_eq_some {text : Text} {index : Nat}
    (found : unescapedQuote? text = some index) :
    ∃ body rest, text = body ++ '"' :: rest ∧ body.length = index := by
  fun_induction unescapedQuote? text generalizing index with
  | case1 => contradiction
  | case2 rest => exact ⟨[], rest, rfl, Option.some.inj found⟩
  | case3 next rest newline ih =>
    obtain ⟨before, atRest, rfl⟩ := Option.map_eq_some_iff.mp found
    obtain ⟨body, after, same, length⟩ := ih atRest
    exact ⟨'\\' :: body, after, by rw [same]; rfl, by simp [length]⟩
  | case4 next rest other ih =>
    obtain ⟨before, atRest, rfl⟩ := Option.map_eq_some_iff.mp found
    obtain ⟨body, after, same, length⟩ := ih atRest
    exact ⟨'\\' :: next :: body, after, by rw [same]; rfl, by simp [length]⟩
  | case5 char rest notQuote notPair ih =>
    obtain ⟨before, atRest, rfl⟩ := Option.map_eq_some_iff.mp found
    obtain ⟨body, after, same, length⟩ := ih atRest
    exact ⟨char :: body, after, by rw [same]; rfl, by simp [length]⟩

theorem finalQuote?_eq_none_iff (text : Text) : finalQuote? text = none ↔ '"' ∉ text := by
  induction text with
  | nil => simp [finalQuote?]
  | cons char rest ih =>
    rw [List.mem_cons, not_or, ← ih]
    cases later : finalQuote? rest with
    | some index => simp [finalQuote?, later]
    | none => simp [finalQuote?, later, eq_comm (a := '"')]

/-- No quote follows the last one. -/
theorem finalQuote?_eq_some {text : Text} {index : Nat} (found : finalQuote? text = some index) :
    ∃ body rest, text = body ++ '"' :: rest ∧ body.length = index ∧ '"' ∉ rest := by
  induction text generalizing index with
  | nil => contradiction
  | cons char rest ih =>
    cases later : finalQuote? rest with
    | some before =>
      obtain ⟨body, after, same, length, last⟩ := ih later
      obtain rfl : before + 1 = index := by simpa [finalQuote?, later] using found
      exact ⟨char :: body, after, by rw [same]; rfl, by simp [length], last⟩
    | none =>
      have here : char = '"' ∧ 0 = index := by simpa [finalQuote?, later] using found
      obtain ⟨rfl, rfl⟩ := here
      exact ⟨[], rest, rfl, rfl, (finalQuote?_eq_none_iff rest).mp later⟩

/-- The body of a run is followed by a quote. -/
theorem bodyLength?_eq_some {rest : Text} {length : Nat} (found : bodyLength? rest = some length) :
    ∃ body after, rest = body ++ '"' :: after ∧ body.length = length := by
  cases first : unescapedQuote? rest with
  | some index =>
    obtain rfl : index = length := by simpa [bodyLength?, first] using found
    exact unescapedQuote?_eq_some first
  | none =>
    have last : finalQuote? rest = some length := by simpa [bodyLength?, first] using found
    obtain ⟨body, after, same, atBody, -⟩ := finalQuote?_eq_some last
    exact ⟨body, after, same, atBody⟩

/-- A separator is no quote. -/
theorem ne_quote_of_isSeparator {char : Char} (separator : isSeparator char = true) :
    char ≠ '"' := by
  rintro rfl
  contradiction

theorem segments_separator {char : Char} (separator : isSeparator char = true) (rest : Text) :
    segments (char :: rest) = .gap char :: segments rest := by
  rw [segments]
  simp [ne_quote_of_isSeparator separator, separator]

theorem segments_stray {rest : Text} (missing : bodyLength? rest = none) :
    segments ('"' :: rest) = .gap '"' :: segments rest := by
  rw [segments]
  simp [missing]

theorem segments_plain {char : Char} (notSeparator : isSeparator char = false)
    (notQuote : char ≠ '"') (rest : Text) :
    segments (char :: rest) = .plain char :: segments rest := by
  rw [segments]
  simp [notQuote, notSeparator]

theorem segments_run {body after : Text}
    (found : bodyLength? (body ++ '"' :: after) = some body.length) :
    segments ('"' :: (body ++ '"' :: after)) = .run body :: segments after := by
  rw [segments]
  simp [found]

/-- What is true of the empty text and passes on over every segment at the start is true of every
text. -/
@[elab_as_elim]
theorem segments_induction {motive : Text → Prop} (nil : motive [])
    (separator : ∀ char rest, isSeparator char = true → motive rest → motive (char :: rest))
    (stray : ∀ rest, bodyLength? rest = none → motive rest → motive ('"' :: rest))
    (plain : ∀ char rest, isSeparator char = false → char ≠ '"' → motive rest →
      motive (char :: rest))
    (run : ∀ body after, bodyLength? (body ++ '"' :: after) = some body.length → motive after →
      motive ('"' :: (body ++ '"' :: after)))
    (text : Text) : motive text := by
  fun_induction segments text with
  | case1 => exact nil
  | case2 char rest quote length found ih =>
    obtain rfl : char = '"' := by simpa using quote
    obtain ⟨body, after, rfl, rfl⟩ := bodyLength?_eq_some found
    have left : (body ++ '"' :: after).drop (body.length + 1) = after := by simp
    rw [left] at ih
    exact run body after found ih
  | case3 char rest quote missing ih =>
    obtain rfl : char = '"' := by simpa using quote
    exact stray rest missing ih
  | case4 char rest notQuote isSeparator ih => exact separator char rest isSeparator ih
  | case5 char rest notQuote notSeparator ih =>
    exact plain char rest (by simpa using notSeparator) (by simpa using notQuote) ih

theorem spell_cons (segment : Segment) (rest : List Segment) :
    spell (segment :: rest) = segment.text ++ spell rest :=
  List.flatMap_cons

/-- Segments neither lose nor add a character. -/
theorem spell_segments (text : Text) : spell (segments text) = text := by
  induction text using segments_induction with
  | nil => simp [segments, spell]
  | separator char rest separator ih => rw [segments_separator separator, spell_cons, ih]; rfl
  | stray rest missing ih => rw [segments_stray missing, spell_cons, ih]; rfl
  | plain char rest notSeparator notQuote ih =>
    rw [segments_plain notSeparator notQuote, spell_cons, ih]
    rfl
  | run body after found ih =>
    rw [segments_run found, spell_cons, ih]
    simp [Segment.text]

theorem spell_append (first second : List Segment) :
    spell (first ++ second) = spell first ++ spell second :=
  List.flatMap_append

theorem spell_eq_nil_iff (segments : List Segment) : spell segments = [] ↔ segments = [] := by
  cases segments with
  | nil => simp [spell]
  | cons segment rest => simp [spell, Segment.text_ne_nil]

private theorem solid_concat {group : List Segment} {segment : Segment}
    (solid : ∀ member ∈ group, member.isGap = false) (other : segment.isGap = false) :
    ∀ member ∈ group ++ [segment], member.isGap = false := by
  simpa [or_imp, forall_and, other] using solid

theorem groups_nil : groups [] = [] := by simp [groups]

theorem groups_gap (char : Char) (rest : List Segment) :
    groups (.gap char :: rest) = groups rest := by
  simp [groups, List.splitOnP_cons_eq_if_modifyHead, Segment.isGap]

theorem groups_solid {group : List Segment} (solid : ∀ segment ∈ group, segment.isGap = false) :
    groups group = if group.isEmpty then [] else [group] := by
  rw [groups, List.splitOnP_eq_singleton solid]
  cases group <;> rfl

/-- A gap ends the group before it. -/
theorem groups_solid_append_gap {group : List Segment}
    (solid : ∀ segment ∈ group, segment.isGap = false) (char : Char) (rest : List Segment) :
    groups (group ++ .gap char :: rest) =
      if group.isEmpty then groups rest else group :: groups rest := by
  rw [groups, List.splitOnP_append_cons_of_forall_mem solid _ rfl]
  cases group <;> rfl

/-- Groups hold the segments of all cells in order. -/
theorem groups_flatten (list : List Segment) : (groups list).flatten = solids list := by
  rw [groups, List.flatten_filter_not_isEmpty]
  induction list with
  | nil => rfl
  | cons segment rest ih =>
    rw [List.splitOnP_cons_eq_if_modifyHead]
    cases isGap : segment.isGap with
    | true => simpa [solids, isGap] using ih
    | false =>
      cases parts : rest.splitOnP Segment.isGap with
      | nil => exact (List.splitOnP_ne_nil _ _ parts).elim
      | cons part parts => simpa [solids, isGap, parts] using ih

theorem solid_of_mem_groups {list group : List Segment} (member : group ∈ groups list) :
    ∀ segment ∈ group, segment.isGap = false := by
  intro segment present
  have inside : segment ∈ solids list :=
    groups_flatten list ▸ List.mem_flatten.mpr ⟨group, member, present⟩
  simpa [solids] using (List.mem_filter.mp inside).2

theorem ne_nil_of_mem_groups {list group : List Segment} (member : group ∈ groups list) :
    group ≠ [] := by
  simpa using (List.mem_filter.mp member).2

theorem ne_nil_of_mem_cells {list : List Segment} {cell : Text} (member : cell ∈ cells list) :
    cell ≠ [] := by
  obtain ⟨group, inGroups, rfl⟩ := List.mem_map.mp member
  exact mt (spell_eq_nil_iff group).mp (ne_nil_of_mem_groups inGroups)

/-- A group that a gap or the end of the text follows is a cell. -/
theorem cells_group_append {group list : List Segment}
    (solid : ∀ segment ∈ group, segment.isGap = false) (nonempty : group ≠ [])
    (ended : ∀ segment ∈ list.head?, segment.isGap = true) :
    cells (group ++ list) = spell group :: cells list := by
  have single : group.isEmpty = false := by simpa using nonempty
  cases list with
  | nil => simp [cells, groups_solid solid, single, groups_nil]
  | cons segment list =>
    cases segment with
    | gap char => simp [cells, groups_solid_append_gap solid, single, groups_gap]
    | plain char => exact absurd (ended _ rfl) nofun
    | run body => exact absurd (ended _ rfl) nofun

/-- Every list starts with a group, which may be empty. -/
theorem exists_group_append (list : List Segment) :
    ∃ group rest, list = group ++ rest ∧ (∀ segment ∈ group, segment.isGap = false) ∧
      ∀ segment ∈ rest.head?, segment.isGap = true := by
  induction list with
  | nil => exact ⟨[], [], rfl, by simp, by simp⟩
  | cons segment list ih =>
    cases isGap : segment.isGap with
    | true => exact ⟨[], segment :: list, rfl, by simp, by simp [isGap]⟩
    | false =>
      obtain ⟨group, rest, rfl, solid, ended⟩ := ih
      exact ⟨segment :: group, rest, rfl, by simpa [isGap] using solid, ended⟩

private theorem closingQuote?_eq (count : Nat) (text : Text) :
    closingQuote? count text = (unescapedQuote? text).map (· + count + 1) := by
  fun_induction closingQuote? count text with
  | case1 => rfl
  | case2 count rest => simp [unescapedQuote?]
  | case3 count next rest ih =>
    rw [ih, unescapedQuote?_pair, Option.map_map]
    congr 1
    funext index
    simp only [Function.comp]
    omega
  | case4 count char rest notQuote notPair ih =>
    rw [ih, unescapedQuote?, Option.map_map]
    · congr 1
      funext index
      simp only [Function.comp]
      omega
    · exact notQuote
    · exact notPair

private theorem lastQuote?_eq (count : Nat) (last : Option Nat) (text : Text) :
    lastQuote? count last text = ((finalQuote? text).map (· + count + 1)).or last := by
  induction text generalizing count last with
  | nil => rfl
  | cons char rest ih =>
    rw [lastQuote?, ih]
    cases later : finalQuote? rest with
    | some index =>
      simp [finalQuote?, later]
      omega
    | none => by_cases quote : char = '"' <;> simp [finalQuote?, later, quote]

private theorem runLength?_eq (rest : Text) : runLength? rest = (bodyLength? rest).map (· + 1) := by
  rw [runLength?, closingQuote?_eq, lastQuote?_eq, bodyLength?, Option.or_none, Option.map_or]

private theorem pieceLength_quote (rest : Text) :
    pieceLength ('"' :: rest) = ((bodyLength? rest).map (· + 2)).getD 0 := by
  change (match runLength? rest with
    | some length => length + 1
    | none => 0) = _
  rw [runLength?_eq]
  cases bodyLength? rest <;> rfl

private theorem pieceLength_other {char : Char} (notQuote : char ≠ '"') (rest : Text) :
    pieceLength (char :: rest) = if isSeparator char then 0 else 1 := by
  unfold pieceLength
  split
  · contradiction
  · next same => exact absurd (List.cons.inj same).1 notQuote
  · next same => rw [(List.cons.inj same).1]

/-- Pending characters go to the cell under way. -/
theorem scan_pending (found : List Text) (cell : Text) (taken rest : Text) :
    scan found cell taken.length (taken ++ rest) = scan found (taken.reverse ++ cell) 0 rest := by
  induction taken generalizing cell with
  | nil => rfl
  | cons char taken ih =>
    rw [List.length_cons, List.cons_append, scan, ih]
    simp

/-- A piece goes to the cell under way. -/
theorem scan_piece {char : Char} {taken rest : Text}
    (piece : pieceLength (char :: (taken ++ rest)) = taken.length + 1) (found : List Text)
    (cell : Text) : scan found cell 0 (char :: (taken ++ rest)) =
      scan found (taken.reverse ++ char :: cell) 0 rest := by
  rw [scan, piece]
  exact scan_pending found (char :: cell) taken rest

/-- A separator ends the cell under way. -/
theorem scan_separator {char : Char} {rest : Text} (piece : pieceLength (char :: rest) = 0)
    (found : List Text) (cell : Text) :
    scan found cell 0 (char :: rest) = scan (closeCell cell found) [] 0 rest := by
  rw [scan, piece]

theorem closeCell_spell (group : List Segment) (found : List Text) :
    closeCell (spell group).reverse found =
      if group.isEmpty then found else spell group :: found := by
  cases group with
  | nil => rfl
  | cons segment rest =>
    have nonempty : spell (segment :: rest) ≠ [] := by simp [spell_eq_nil_iff]
    simp [closeCell, nonempty]

/-- At a gap the group under way becomes a cell. -/
theorem cells_append_gap {group : List Segment} (solid : ∀ segment ∈ group, segment.isGap = false)
    (char : Char) (rest : List Segment) (found : List Text) :
    (cells (group ++ .gap char :: rest)).reverse ++ found =
      (cells rest).reverse ++ closeCell (spell group).reverse found := by
  rw [closeCell_spell, cells, groups_solid_append_gap solid]
  split <;> simp [cells]

/-- With the characters of a group under way, the pass finds the cells that the group and the
segments ahead form. -/
theorem scan_eq (found : List Text) (group : List Segment)
    (solid : ∀ segment ∈ group, segment.isGap = false) (text : Text) :
    scan found (spell group).reverse 0 text =
      (cells (group ++ segments text)).reverse ++ found := by
  induction text using segments_induction generalizing found group with
  | nil =>
    rw [segments, List.append_nil, scan, closeCell_spell, cells, groups_solid solid]
    split <;> simp
  | separator char rest separator ih =>
    have piece : pieceLength (char :: rest) = 0 := by
      rw [pieceLength_other (ne_quote_of_isSeparator separator), if_pos separator]
    rw [scan_separator piece, segments_separator separator, cells_append_gap solid]
    exact ih _ [] (by simp)
  | stray rest missing ih =>
    have piece : pieceLength ('"' :: rest) = 0 := by simp [pieceLength_quote, missing]
    rw [scan_separator piece, segments_stray missing, cells_append_gap solid]
    exact ih _ [] (by simp)
  | plain char rest notSeparator notQuote ih =>
    have piece : pieceLength (char :: ([] ++ rest)) = 0 + 1 := by
      rw [pieceLength_other notQuote, if_neg (by simp [notSeparator])]
    have joined : char :: (spell group).reverse = (spell (group ++ [.plain char])).reverse := by
      simp [spell, Segment.text]
    rw [segments_plain notSeparator notQuote, ← List.nil_append rest, scan_piece piece,
      List.reverse_nil, List.nil_append, joined, ih _ _ (solid_concat solid rfl),
      List.append_assoc, List.singleton_append, List.nil_append]
  | run body after bodyFound ih =>
    have joined : (body ++ ['"']).reverse ++ '"' :: (spell group).reverse =
        (spell (group ++ [.run body])).reverse := by simp [spell, Segment.text]
    have piece : pieceLength ('"' :: (body ++ ['"'] ++ after)) = (body ++ ['"']).length + 1 := by
      simp [pieceLength_quote, bodyFound]
    rw [segments_run bodyFound, List.append_cons, scan_piece piece, joined,
      ih _ _ (solid_concat solid rfl), List.append_assoc, List.singleton_append]

/-- The one pass over a text finds the cells that its segments form. -/
theorem ofText_eq_cells (text : Text) : ofText text = cells (segments text) := by
  have found := scan_eq [] [] (by simp) text
  rw [List.nil_append, List.append_nil] at found
  rw [ofText, ← List.reverse_reverse (cells (segments text)), ← found]
  rfl

end FlatSheet.Tokens
