import FlatSheet.Text.Cut
import Mathlib.Data.List.TakeWhile

/-! # Where a text is cut

The longest part at the start whose characters have a property ends before the first character
that has it not. So the parts on the two sides of a mark are found again, when there is no mark
before the first one and none after the last one, and parts without the mark are found again after
they were joined by it.
-/

namespace FlatSheet.Text

section

variable {accepts : Char → Bool} {front rest : Text}

/-- The longest part at the start is known from where it ends. -/
theorem takeWhile_append_of_ended (all : ∀ char ∈ front, accepts char = true)
    (ended : ∀ char ∈ rest.head?, accepts char = false) :
    (front ++ rest).takeWhile accepts = front := by
  rw [List.takeWhile_append_of_pos all]
  cases rest with
  | nil => exact List.append_nil front
  | cons char rest => rw [List.takeWhile_cons_of_neg (by simp [ended char rfl]), List.append_nil]

theorem dropWhile_append_of_ended (all : ∀ char ∈ front, accepts char = true)
    (ended : ∀ char ∈ rest.head?, accepts char = false) :
    (front ++ rest).dropWhile accepts = rest := by
  rw [List.dropWhile_append_of_pos all]
  cases rest with
  | nil => rfl
  | cons char rest => rw [List.dropWhile_cons_of_neg (by simp [ended char rfl])]

end

variable {mark : Char} {front text : Text}

theorem ne_of_notMem (absent : mark ∉ text) : ∀ char ∈ text, (char != mark) = true := by
  intro char member
  simpa using ne_of_mem_of_not_mem member absent

theorem ne_of_mem_reverse (absent : mark ∉ text) : ∀ char ∈ text.reverse, (char != mark) = true := by
  simpa using ne_of_notMem absent

theorem reverse_cut (front : Text) (mark : Char) (behind : Text) :
    (front ++ mark :: behind).reverse = behind.reverse ++ mark :: front.reverse := by
  simp

theorem beforeFirst_append (absent : mark ∉ front) (rest : Text) :
    beforeFirst mark (front ++ mark :: rest) = front :=
  takeWhile_append_of_ended (ne_of_notMem absent) (by simp)

theorem afterFirst_append (absent : mark ∉ front) (rest : Text) :
    afterFirst mark (front ++ mark :: rest) = rest := by
  rw [afterFirst, dropWhile_append_of_ended (ne_of_notMem absent) (by simp)]
  rfl

theorem afterLast_eq_self (absent : mark ∉ text) : afterLast mark text = text := by
  rw [afterLast, List.takeWhile_eq_self_iff.mpr (ne_of_mem_reverse absent), List.reverse_reverse]

/-- A mark that occurs has a last place. -/
theorem exists_last_of_mem (present : mark ∈ text) :
    ∃ front behind : Text, text = front ++ mark :: behind ∧ mark ∉ behind := by
  obtain ⟨behind, front, cut, absent⟩ := List.eq_append_cons_of_mem (List.mem_reverse.mpr present)
  refine ⟨front.reverse, behind.reverse, ?_, by simpa using absent⟩
  rw [← List.reverse_reverse text, cut]
  simp

private theorem beforeLast?_append (front : Text) {behind : Text} (absent : mark ∉ behind) :
    beforeLast? mark (front ++ mark :: behind) = some front := by
  rw [beforeLast?, reverse_cut, dropWhile_append_of_ended (ne_of_mem_reverse absent) (by simp)]
  simp only [List.reverse_reverse]

theorem beforeLast?_eq_some_iff :
    beforeLast? mark text = some front ↔
      ∃ behind, text = front ++ mark :: behind ∧ mark ∉ behind := by
  constructor
  · intro found
    have present : mark ∈ text := by
      by_contra absent
      simp [beforeLast?, List.dropWhile_eq_nil_iff.mpr (ne_of_mem_reverse absent)] at found
    obtain ⟨before, behind, rfl, last⟩ := exists_last_of_mem present
    rw [beforeLast?_append before last] at found
    exact ⟨behind, Option.some.inj found ▸ rfl, last⟩
  · rintro ⟨behind, rfl, absent⟩
    exact beforeLast?_append front absent

theorem afterLast_append (front : Text) {behind : Text} (absent : mark ∉ behind) :
    afterLast mark (front ++ mark :: behind) = behind := by
  rw [afterLast, reverse_cut, takeWhile_append_of_ended (ne_of_mem_reverse absent) (by simp),
    List.reverse_reverse]

theorem notMem_beforeFirst (mark : Char) (text : Text) : mark ∉ beforeFirst mark text := by
  intro member
  have refused := List.mem_takeWhile_imp member
  simp at refused

/-- The parts have no mark in them, and no character that the text does not have. -/
theorem mem_splitOn {text part : Text} (member : part ∈ text.splitOn mark) :
    mark ∉ part ∧ part ⊆ text := by
  by_cases present : mark ∈ text
  · obtain ⟨front, rest, cut, absent⟩ := List.eq_append_cons_of_mem present
    rw [cut, List.splitOn_append_cons_self_of_not_mem absent, List.mem_cons] at member
    rw [cut]
    rcases member with rfl | later
    · exact ⟨absent, List.subset_append_left part _⟩
    · obtain ⟨free, inside⟩ := mem_splitOn later
      have behind := List.Subset.trans inside (List.subset_cons_self mark rest)
      exact ⟨free, List.Subset.trans behind (List.subset_append_right front _)⟩
  · rw [List.splitOn_eq_singleton present, List.mem_singleton] at member
    subst member
    exact ⟨present, List.Subset.refl part⟩
termination_by text.length
decreasing_by
  rw [cut, List.length_append, List.length_cons]
  omega

/-- A mark leaves a part on either side. -/
theorem two_le_length_splitOn (present : mark ∈ text) : 2 ≤ (text.splitOn mark).length := by
  obtain ⟨front, rest, rfl, absent⟩ := List.eq_append_cons_of_mem present
  have one : 0 < (rest.splitOn mark).length :=
    List.length_pos_iff.mpr (List.splitOn_ne_nil mark rest)
  rw [List.splitOn_append_cons_self_of_not_mem absent, List.length_cons]
  omega

/-- Joining brings in no character but the separator. -/
theorem notMem_join {parts : List Text} {char : Char} (absent : ∀ part ∈ parts, char ∉ part)
    (other : char ≠ mark) : char ∉ join [mark] parts := by
  induction parts with
  | nil => exact List.not_mem_nil
  | cons part rest ih =>
    obtain ⟨here, later⟩ := List.forall_mem_cons.mp absent
    cases rest with
    | nil => rwa [join, List.intercalate_singleton]
    | cons next rest =>
      rw [join, List.intercalate_cons_cons]
      have behind := ih later
      rw [join] at behind
      simp [here, other, behind]

/-- Several parts are joined by a mark at least. -/
theorem mem_join {parts : List Text} (several : 2 ≤ parts.length) : mark ∈ join [mark] parts := by
  match parts, several with
  | first :: second :: rest, _ => simp [join, List.intercalate_cons_cons]

/-- A separator precedes each part behind the first. -/
theorem join_cons (separator part : Text) (back : List Text) :
    join separator (part :: back) = part ++ back.flatMap (separator ++ ·) := by
  induction back generalizing part with
  | nil => rw [join, List.intercalate_singleton, List.flatMap_nil, List.append_nil]
  | cons next back ih =>
    rw [join, List.intercalate_cons_cons, ← join, ih, List.flatMap_cons, List.append_assoc,
      List.append_assoc]

/-- A separator follows each part before a given one and precedes each part behind it. -/
theorem join_append_cons (separator : Text) (front : List Text) (part : Text) (back : List Text) :
    join separator (front ++ part :: back) =
      front.flatMap (· ++ separator) ++ join separator (part :: back) := by
  induction front with
  | nil => rfl
  | cons first front ih =>
    have joined : join separator (first :: (front ++ part :: back)) =
        first ++ separator ++ join separator (front ++ part :: back) := by
      cases front <;> simp [join]
    rw [List.cons_append, joined, ih, List.flatMap_cons]
    simp only [List.append_assoc]

/-- A separator behind every part is one more than between them. -/
theorem flatMap_append_separator (separator : Text) {parts : List Text} (some : parts ≠ []) :
    parts.flatMap (· ++ separator) = join separator parts ++ separator := by
  obtain ⟨front, last, rfl⟩ := (List.eq_nil_or_concat parts).resolve_left some
  rw [List.concat_eq_append, join_append_cons, join_cons, List.flatMap_append, List.append_assoc]
  simp

theorem getLast?_flatMap_append_mark (mark : Char) {parts : List Text} (some : parts ≠ []) :
    (parts.flatMap (· ++ [mark])).getLast? = Option.some mark := by
  rw [flatMap_append_separator [mark] some, List.getLast?_concat]

/-- What follows the mark in a separator may as well stand in front of the parts. -/
theorem join_cons_map (mark : Char) (tail part : Text) (back : List Text) :
    join (mark :: tail) (part :: back) = join [mark] (part :: back.map (tail ++ ·)) := by
  rw [join_cons, join_cons, List.flatMap_map]
  rfl

private theorem splitOn_join {tail part : Text} {back : List Text} (apart : mark ∉ tail)
    (free : ∀ other ∈ part :: back, mark ∉ other) :
    (join (mark :: tail) (part :: back)).splitOn mark = part :: back.map (tail ++ ·) := by
  obtain ⟨here, later⟩ := List.forall_mem_cons.mp free
  have whole : ∀ other ∈ part :: back.map (tail ++ ·), mark ∉ other := by
    rw [List.forall_mem_cons, List.forall_mem_map]
    exact ⟨here, fun other member => List.not_mem_append apart (later other member)⟩
  rw [join_cons_map]
  exact List.splitOn_intercalate mark whole (List.cons_ne_nil _ _)

/-- Parts that are not empty and have not the mark in them are known from how they are joined. -/
theorem join_injOn {tail : Text} (apart : mark ∉ tail) {first second : List Text}
    (parts : ∀ part ∈ first, part ≠ [] ∧ mark ∉ part)
    (alsoParts : ∀ part ∈ second, part ≠ [] ∧ mark ∉ part)
    (same : join (mark :: tail) first = join (mark :: tail) second) : first = second := by
  have empty {part : Text} {back : List Text} (joined : join (mark :: tail) (part :: back) = []) :
      part = [] := by
    rw [join_cons] at joined
    exact (List.append_eq_nil_iff.mp joined).1
  match first, second with
  | [], [] => rfl
  | [], part :: back => exact absurd (empty same.symm) (alsoParts part List.mem_cons_self).1
  | part :: back, [] => exact absurd (empty same) (parts part List.mem_cons_self).1
  | part :: back, other :: others =>
    have cut := congrArg (List.splitOn mark) same
    rw [splitOn_join apart fun part member => (parts part member).2,
      splitOn_join apart fun part member => (alsoParts part member).2] at cut
    obtain ⟨rfl, behind⟩ := List.cons.inj cut
    rw [(List.map_inj_right fun _ _ => List.append_cancel_left).mp behind]

end FlatSheet.Text
