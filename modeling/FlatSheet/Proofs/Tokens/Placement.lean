import FlatSheet.Proofs.Tokens.Matching
import FlatSheet.Proofs.Tokens.Spacing

/-! # Where cells stand in their text

Cutting a text into cells moves and changes no character: each cell stands at a place of its own in
the text, in order and apart from the others. The characters outside of all cells are separators,
and the one quote that may be among them is the last quote of the text. So a text without cells
holds nothing but separators and at most one quote.
-/

namespace FlatSheet

namespace Tokens

/-- A cell and the index of its first character in a text. -/
structure Placed where
  start : Nat
  cell : Text

namespace Placed

/-- The index after the last character. -/
def stop (placed : Placed) : Nat := placed.start + placed.cell.length

/-- Whether the character at an index belongs to the cell. -/
def Covers (placed : Placed) (index : Nat) : Prop := placed.start ≤ index ∧ index < placed.stop

/-- The cell behind further characters. -/
def shift (offset : Nat) (placed : Placed) : Placed :=
  { start := offset + placed.start, cell := placed.cell }

end Placed

/-- Cells at places of a text, from left to right without overlap. -/
structure Placement (text : Text) where
  places : List Placed
  spelled : ∀ placed ∈ places, placed.cell <+: text.drop placed.start
  apart : places.Pairwise fun first second => first.stop ≤ second.start

namespace Placement

variable {rest : Text}

/-- The cells in order. -/
def cells {text : Text} (placement : Placement text) : List Text :=
  placement.places.map Placed.cell

/-- Whether the character at an index belongs to no cell. -/
def Free {text : Text} (placement : Placement text) (index : Nat) : Prop :=
  ∀ placed ∈ placement.places, ¬placed.Covers index

/-- The characters that belong to no cell are separators, except for the last quote of the text. -/
def LeavesSeparators {text : Text} (placement : Placement text) : Prop :=
  ∀ index char, placement.Free index → text[index]? = some char →
    isSeparator char = true ∨ char = '"' ∧ '"' ∉ text.drop (index + 1)

/-- The same cells behind further characters. -/
def behind (taken : Text) (placement : Placement rest) : Placement (taken ++ rest) where
  places := placement.places.map (Placed.shift taken.length)
  spelled := by
    intro placed member
    obtain ⟨before, present, rfl⟩ := List.mem_map.mp member
    simpa [Placed.shift] using placement.spelled before present
  apart := by
    refine List.pairwise_map.mpr (placement.apart.imp ?_)
    intro first second apart
    simp only [Placed.stop, Placed.shift] at apart ⊢
    omega

/-- One more cell at the start of the text. -/
def cons (cell : Text) (placement : Placement rest) : Placement (cell ++ rest) where
  places := { start := 0, cell := cell } :: (placement.behind cell).places
  spelled := by
    rw [List.forall_mem_cons]
    exact ⟨List.prefix_append cell rest, (placement.behind cell).spelled⟩
  apart := by
    refine List.pairwise_cons.mpr ⟨?_, (placement.behind cell).apart⟩
    intro placed member
    obtain ⟨before, present, rfl⟩ := List.mem_map.mp member
    simp [Placed.stop, Placed.shift]

theorem cells_behind (taken : Text) (placement : Placement rest) :
    (placement.behind taken).cells = placement.cells := by
  simp [cells, behind, Placed.shift]

private theorem cells_cons (cell : Text) (placement : Placement rest) :
    (placement.cons cell).cells = cell :: placement.cells :=
  congrArg (cell :: ·) (cells_behind cell placement)

theorem free_of_behind {taken : Text} {placement : Placement rest} {index : Nat}
    (free : (placement.behind taken).Free (taken.length + index)) : placement.Free index := by
  intro placed member covers
  refine free (placed.shift taken.length) (List.mem_map_of_mem member) ?_
  simp only [Placed.Covers, Placed.stop, Placed.shift] at covers ⊢
  omega

/-- The cell at the start covers its own characters. -/
theorem free_of_cons {cell : Text} {placement : Placement rest} {index : Nat}
    (free : (placement.cons cell).Free index) :
    ∃ before, index = cell.length + before ∧ placement.Free before := by
  have beyond : cell.length ≤ index := by
    refine Nat.le_of_not_lt fun inside => ?_
    exact free { start := 0, cell := cell } (List.mem_cons_self ..)
      (by simpa [Placed.Covers, Placed.stop] using inside)
  obtain ⟨before, rfl⟩ := Nat.exists_eq_add_of_le beyond
  exact ⟨before, rfl, free_of_behind fun placed member => free placed (.tail _ member)⟩

private theorem LeavesSeparators.behind {placement : Placement rest} {char : Char}
    (allowed : isSeparator char = true ∨ char = '"' ∧ '"' ∉ rest)
    (leaves : placement.LeavesSeparators) : (placement.behind [char]).LeavesSeparators := by
  intro index found free present
  cases index with
  | zero =>
    obtain rfl : char = found := by simpa using present
    exact allowed
  | succ index =>
    have later : placement.Free index := free_of_behind (by rwa [Nat.add_comm] at free)
    exact leaves index found later present

private theorem LeavesSeparators.cons {placement : Placement rest}
    (leaves : placement.LeavesSeparators)
    (cell : Text) : (placement.cons cell).LeavesSeparators := by
  intro index found free present
  obtain ⟨before, rfl, later⟩ := free_of_cons free
  rw [List.getElem?_append_right (by omega), Nat.add_sub_cancel_left] at present
  have same : (cell ++ rest).drop (cell.length + before + 1) = rest.drop (before + 1) := by
    rw [Nat.add_assoc, List.drop_length_add_append]
  rw [same]
  exact leaves before found later present

/-- The last quote is the only quote that can be left over: behind one that is, no quote comes at
all, in a cell or not. -/
theorem LeavesSeparators.quote_unique {text : Text} {placement : Placement text}
    (leaves : placement.LeavesSeparators) {index other : Nat} (free : placement.Free index)
    (otherFree : placement.Free other) (quote : text[index]? = some '"')
    (otherQuote : text[other]? = some '"') : index = other := by
  have last {index : Nat} (free : placement.Free index) (quote : text[index]? = some '"')
      {later : Nat} (beyond : index < later) : text[later]? ≠ some '"' := by
    intro again
    rcases leaves index '"' free quote with separator | ⟨-, noQuote⟩
    · exact ne_quote_of_isSeparator separator rfl
    · apply noQuote
      obtain ⟨distance, rfl⟩ := Nat.exists_eq_add_of_lt beyond
      rw [Nat.add_right_comm] at again
      exact List.mem_of_getElem? (by rwa [List.getElem?_drop])
  rcases Nat.lt_trichotomy index other with before | same | after
  · exact absurd otherQuote (last free quote before)
  · exact same
  · exact absurd quote (last otherFree otherQuote after)

end Placement

/-- The cells of orderly segments stand in the text that these spell. -/
theorem Orderly.exists_placement {list : List Segment} (orderly : Orderly list) :
    ∃ placement : Placement (spell list),
      placement.cells = cells list ∧ placement.LeavesSeparators := by
  induction list, orderly using Orderly.group_induction with
  | nil =>
    refine ⟨⟨[], by simp, .nil⟩, ?_, ?_⟩
    · simp [Placement.cells, cells, groups_nil]
    · intro index char _ present
      simp [spell] at present
  | gap char rest orderly ih =>
    obtain ⟨placement, same, leaves⟩ := ih
    have allowed : isSeparator char = true ∨ char = '"' ∧ '"' ∉ spell rest := by
      cases orderly with
      | gap separator _ => exact .inl separator
      | stray last _ => exact .inr ⟨rfl, last⟩
    rw [spell_cons]
    refine ⟨placement.behind (Segment.gap char).text, ?_, leaves.behind allowed⟩
    rw [Placement.cells_behind, same, cells, cells, groups_gap]
  | group group rest nonempty solid ended orderly ih =>
    obtain ⟨placement, same, leaves⟩ := ih
    rw [spell_append]
    refine ⟨placement.cons (spell group), ?_, leaves.cons (spell group)⟩
    rw [Placement.cells_cons, same, cells_group_append solid nonempty ended]

private theorem exists_placement (text : Text) :
    ∃ placement : Placement text, placement.cells = ofText text ∧ placement.LeavesSeparators := by
  have found := (orderly_segments text).exists_placement
  rw [spell_segments, ← ofText_eq_cells] at found
  exact found

/-- Nothing but separators and at most one quote. -/
def Vacant (text : Text) : Prop :=
  (∀ char ∈ text, isSeparator char = true ∨ char = '"') ∧ text.count '"' ≤ 1

/-- Membership is decided along the text; another instance goes through all characters. -/
instance (text : Text) : Decidable (Vacant text) :=
  @instDecidableAnd _ _ (List.decidableBAll _ text) inferInstance

private theorem Orderly.solids_eq_nil_iff {list : List Segment} (orderly : Orderly list) :
    Tokens.solids list = [] ↔ Vacant (spell list) := by
  induction orderly with
  | nil => simp [Tokens.solids, Vacant, spell]
  | @gap char rest separator _ ih =>
    have other := ne_quote_of_isSeparator separator
    change Tokens.solids rest = [] ↔ Vacant (char :: spell rest)
    rw [ih]
    simp [Vacant, separator, other]
  | @stray rest last _ ih =>
    change Tokens.solids rest = [] ↔ Vacant ('"' :: spell rest)
    rw [ih]
    simp [Vacant, List.count_eq_zero.mpr last]
  | @plain char rest notSeparator notQuote _ _ =>
    change Segment.plain char :: Tokens.solids rest = [] ↔ Vacant (char :: spell rest)
    simp [Vacant, notSeparator, notQuote]
  | @closed body rest _ _ _ | @unclosed body rest _ _ _ _ =>
    have twice : 2 ≤ (spell (.run body :: rest)).count '"' := by
      rw [spell_run]
      simp
      omega
    change Segment.run body :: Tokens.solids rest = [] ↔ _
    simp only [reduceCtorEq, false_iff]
    exact fun vacant => absurd vacant.2 (by omega)

private theorem ofText_eq_nil_iff (text : Text) : ofText text = [] ↔ Vacant text := by
  have orderly := (orderly_segments text).solids_eq_nil_iff
  rw [spell_segments] at orderly
  rw [← orderly, ofText_eq_cells, cells, List.map_eq_nil_iff, ← groups_flatten,
    List.flatten_eq_nil_iff]
  constructor
  · intro none
    simp [none]
  · intro empty
    refine List.eq_nil_iff_forall_not_mem.mpr fun group member => ?_
    exact ne_nil_of_mem_groups member (empty group member)

end Tokens

namespace Record

/-- Reading a record loses nothing but separators and perhaps the last quote of the text. The cells
stand in the text as they are, so trimming the matches and dropping empty ones changes nothing. Only
a text without anything else is no record. -/
theorem ofText_loses_only_separators (text : Text) :
    (∃ placement : Tokens.Placement text, placement.cells = Tokens.ofText text ∧
      placement.LeavesSeparators ∧
      ∀ index other, placement.Free index → placement.Free other →
        text[index]? = some '"' → text[other]? = some '"' → index = other) ∧
    (∀ cell ∈ Tokens.ofText text, ∃ first last, cell.head? = some first ∧
      cell.getLast? = some last ∧ isBlank first = false ∧ isBlank last = false) ∧
    Tokens.cellPattern.findAll text = Tokens.ofText text ∧
    ((Tokens.cellPattern.findAll text).map Text.trim).filter (fun cell => !cell.isEmpty) =
      Tokens.cellPattern.findAll text ∧
    (∀ record, ofText text = .ok record → record.cells.toList = Tokens.ofText text) ∧
    ∀ fault, ofText text = .error fault ↔ fault = .noCells ∧ Tokens.Vacant text := by
  have orderly := Tokens.orderly_segments text
  have found : Tokens.cellPattern.findAll text = Tokens.cells (Tokens.segments text) := by
    simpa only [Tokens.spell_segments] using Tokens.findAll_spell orderly
  refine ⟨?_, ?_, ?_, ?_, ?_, ?_⟩
  · obtain ⟨placement, same, leaves⟩ := Tokens.exists_placement text
    exact ⟨placement, same, leaves, fun _ _ => leaves.quote_unique⟩
  · intro cell member
    rw [Tokens.ofText_eq_cells] at member
    have nonempty := Tokens.ne_nil_of_mem_cells member
    obtain ⟨atStart, atEnd⟩ := Tokens.not_isBlank_of_mem_cells orderly member
    have first := List.head?_eq_some_head nonempty
    have last := List.getLast?_eq_some_getLast nonempty
    exact ⟨_, _, first, last, atStart _ first, atEnd _ last⟩
  · rw [found, Tokens.ofText_eq_cells]
  · rw [found, List.map_congr_left fun cell => Tokens.trim_of_mem_cells orderly, List.map_id',
      List.filter_eq_self]
    intro cell member
    simpa using Tokens.ne_nil_of_mem_cells member
  · intro record read
    obtain ⟨-, rfl⟩ := (ofText_eq_ok_iff text record).mp read
    rw [ofCells, List.toList_toArray]
  · intro fault
    rw [← Tokens.ofText_eq_nil_iff]
    cases read : Tokens.ofText text <;> simp [ofText, read, eq_comm (a := fault)]

/-- A formula keeps the separators between its quotes and a stray quote at the end is lost; alone it
is no record. -/
theorem ofText_loses_only_separators_stray :
    let text := ",\"=MAX(A1, B1)\"\t7 \"".toList
    let formula := "\"=MAX(A1, B1)\"".toList
    (∃ placement : Tokens.Placement text, placement.cells = Tokens.ofText text ∧
      (placement.Free 18 → '"' ∉ text.drop 19)) ∧
    (∃ first last, formula.head? = some first ∧ formula.getLast? = some last ∧
      isBlank first = false ∧ isBlank last = false) ∧
    Tokens.ofText text = [formula, ['7']] ∧
    ofText " ,\"\n".toList = .error .noCells := by
  intro text formula
  obtain ⟨⟨placement, same, leaves, -⟩, ends, -, -, cells, -⟩ := ofText_loses_only_separators text
  refine ⟨⟨placement, same, ?_⟩, ends formula (by decide), ?_, ?_⟩
  · intro free
    rcases leaves 18 '"' free rfl with separator | ⟨-, last⟩
    · exact absurd separator (by decide)
    · exact last
  · exact (cells (ofCells [formula, ['7']]) rfl).symm
  · obtain ⟨-, -, -, -, -, fails⟩ := ofText_loses_only_separators " ,\"\n".toList
    exact (fails .noCells).mpr ⟨rfl, by decide⟩

end Record

end FlatSheet
