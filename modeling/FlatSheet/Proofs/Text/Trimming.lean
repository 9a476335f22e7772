import FlatSheet.Text.Blank
import Mathlib.Data.List.TakeWhile

/-! # Trimmed texts

A text is its trimmed text with blanks on both sides. The trimmed text starts and ends with a
character that is not blank, and it is the only part between blanks that does.
-/

namespace FlatSheet.Text

/-- Blank characters only. -/
def AllBlank (text : Text) : Prop := ∀ char ∈ text, isBlank char = true

/-- No blank character at either end. -/
structure Trimmed (text : Text) : Prop where
  first : ∀ char ∈ text.head?, isBlank char = false
  last : ∀ char ∈ text.getLast?, isBlank char = false

instance (text : Text) : Decidable text.Trimmed :=
  decidable_of_iff ((text.head?.all fun char => !isBlank char) = true ∧
      (text.getLast?.all fun char => !isBlank char) = true)
    ⟨fun ⟨first, last⟩ => ⟨by simpa [Option.all_eq_true] using first,
        by simpa [Option.all_eq_true] using last⟩,
      fun ⟨first, last⟩ => ⟨by simpa [Option.all_eq_true] using first,
        by simpa [Option.all_eq_true] using last⟩⟩

theorem trimStart_append {lead : Text} (blank : lead.AllBlank) (text : Text) :
    (lead ++ text).trimStart = text.trimStart :=
  List.dropWhile_append_of_pos blank

theorem trimStart_eq_self {text : Text} (first : ∀ char ∈ text.head?, isBlank char = false) :
    text.trimStart = text := by
  cases text with
  | nil => rfl
  | cons char rest => rw [trimStart, List.dropWhile_cons_of_neg (by simp [first char rfl])]

theorem exists_append_trimStart (text : Text) :
    ∃ lead : Text, lead.AllBlank ∧ text = lead ++ text.trimStart := by
  refine ⟨text.takeWhile isBlank, ?_, List.takeWhile_append_dropWhile.symm⟩
  exact fun char member => List.mem_takeWhile_imp member

theorem head?_trimStart (text : Text) : ∀ char ∈ text.trimStart.head?, isBlank char = false := by
  intro char first
  have refused := List.head?_dropWhile_not isBlank text
  rw [← trimStart, Option.mem_def.mp first] at refused
  simpa using refused

theorem trimEnd_eq (text : Text) : text.trimEnd = (trimStart text.reverse).reverse := rfl

private theorem trimEnd_append {trail : Text} (blank : trail.AllBlank) (text : Text) :
    (text ++ trail).trimEnd = text.trimEnd := by
  have reversed : AllBlank trail.reverse := fun char member => blank char (List.mem_reverse.mp member)
  rw [trimEnd_eq, List.reverse_append, trimStart_append reversed, ← trimEnd_eq]

theorem trimEnd_eq_self {text : Text} (last : ∀ char ∈ text.getLast?, isBlank char = false) :
    text.trimEnd = text := by
  rw [trimEnd_eq, trimStart_eq_self (by simpa using last), List.reverse_reverse]

theorem trim_eq_self {text : Text} (trimmed : text.Trimmed) : text.trim = text := by
  rw [trim, trimStart_eq_self trimmed.first, trimEnd_eq_self trimmed.last]

theorem trim_cons {char : Char} (notBlank : isBlank char = false) (rest : Text) :
    trim (char :: rest) = char :: rest.trimEnd := by
  rw [trim, trimStart, List.dropWhile_cons_of_neg (by simp [notBlank]), trimEnd, trimEnd,
    List.reverse_cons, List.dropWhile_append, List.dropWhile_cons_of_neg (by simp [notBlank])]
  split
  · next allBlank => simp [List.isEmpty_iff.mp allBlank]
  · simp

/-- What stands between the blanks is what trimming leaves. -/
theorem trim_eq_of_blanks {lead text trail : Text} (atStart : lead.AllBlank)
    (trimmed : text.Trimmed) (atEnd : trail.AllBlank) : (lead ++ text ++ trail).trim = text := by
  rw [List.append_assoc, trim, trimStart_append atStart]
  cases text with
  | nil =>
    have none : trimStart trail = [] := List.dropWhile_eq_nil_iff.mpr atEnd
    rw [List.nil_append, none]
    rfl
  | cons char rest =>
    rw [trimStart_eq_self (by simpa using trimmed.first char rfl), trimEnd_append atEnd,
      trimEnd_eq_self trimmed.last]

theorem trimmed_trim (text : Text) : text.trim.Trimmed := by
  obtain ⟨trail, -, split⟩ := exists_append_trimStart text.trimStart.reverse
  have front : text.trimStart = text.trim ++ trail.reverse := by
    rw [← List.reverse_reverse text.trimStart, split, List.reverse_append]
    rfl
  constructor
  · intro char first
    apply head?_trimStart text
    rw [front, List.head?_append, Option.mem_def.mp first]
    rfl
  · intro char last
    apply head?_trimStart text.trimStart.reverse
    rwa [trim, trimEnd_eq, List.getLast?_reverse] at last

/-- A text is its trimmed text with blanks on both sides. -/
theorem exists_blanks_trim (text : Text) : ∃ lead trail : Text,
    lead.AllBlank ∧ trail.AllBlank ∧ text = lead ++ text.trim ++ trail := by
  obtain ⟨lead, atStart, split⟩ := exists_append_trimStart text
  obtain ⟨trail, atEnd, rest⟩ := exists_append_trimStart text.trimStart.reverse
  refine ⟨lead, trail.reverse, atStart, fun char member => atEnd char (List.mem_reverse.mp member), ?_⟩
  rw [List.append_assoc, trim, trimEnd_eq, ← List.reverse_append, ← rest, List.reverse_reverse,
    ← split]

/-- Trimming brings in no character. -/
theorem trim_subset (text : Text) : text.trim ⊆ text := by
  obtain ⟨lead, trail, -, -, split⟩ := exists_blanks_trim text
  have inside : text.trim <:+: text := ⟨lead, trail, split.symm⟩
  exact inside.subset

theorem trim_trim (text : Text) : text.trim.trim = text.trim := trim_eq_self (trimmed_trim text)

end FlatSheet.Text
