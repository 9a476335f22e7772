import FlatSheet.Text.Blank
import Mathlib.Data.List.Basic

/-! # Patterns with ordered choice

A pattern says how a match may go on at every point and in which order the ways are tried. The
first alternative comes before the second, and another round of a repetition before its end. A
matcher takes the first way that leads to a match and undoes its latest choice first, so its match
is the head of the list of all matches in that order. Each match is given by the text after it.

`findAll` cuts a text into the matches from left to right: it starts again after each match, and
one character later where there is none.
-/

namespace FlatSheet

/-- A pattern on texts. -/
inductive Pattern
  | char (accepts : Char → Bool)
  | seq (first second : Pattern)
  | alt (first second : Pattern)
  | star (body : Pattern)

namespace Pattern

/-- Rounds of a step at the start of a text, as many as possible first. Each round has to take
something. -/
def rounds (step : Text → List Text) (text : Text) : List Text :=
  ((step text).flatMap fun rest =>
    if rest.length < text.length then rounds step rest else []) ++ [text]
termination_by text.length

/-- The texts that matches at the start of a text leave, in the order in which they are tried. -/
def rests : Pattern → Text → List Text
  | .char _, [] => []
  | .char accepts, first :: rest => if accepts first then [rest] else []
  | .seq first second, text => (first.rests text).flatMap second.rests
  | .alt first second, text => first.rests text ++ second.rests text
  | .star body, text => rounds body.rests text

/-- One round or more. -/
def plus (body : Pattern) : Pattern := .seq body (.star body)

/-- The text that the preferred match at the start of a text leaves. -/
def rest? (pattern : Pattern) (text : Text) : Option Text := (pattern.rests text).head?

/-- The preferred matches in a text from left to right, without empty ones. -/
def findAll (pattern : Pattern) : Text → List Text
  | [] => []
  | first :: text =>
    match pattern.rest? (first :: text) with
    | none => pattern.findAll text
    | some rest =>
      if rest.length < text.length + 1 then
        (first :: text).take (text.length + 1 - rest.length) :: pattern.findAll rest
      else pattern.findAll text
termination_by text => text.length

/-- Whether every match takes at least one character. -/
def Consumes : Pattern → Prop
  | .char _ => True
  | .seq first second => first.Consumes ∨ second.Consumes
  | .alt first second => first.Consumes ∧ second.Consumes
  | .star _ => False

theorem mem_rests_char_iff (accepts : Char → Bool) (text rest : Text) :
    rest ∈ (char accepts).rests text ↔ ∃ first, text = first :: rest ∧ accepts first = true := by
  cases text with
  | nil => simp [rests]
  | cons first text =>
    by_cases accepted : accepts first = true <;> simp [rests, accepted, eq_comm (a := rest)]

private theorem length_le_of_mem_rounds {step : Text → List Text}
    (bounded : ∀ text, ∀ rest ∈ step text, rest.length ≤ text.length) {text rest : Text}
    (member : rest ∈ rounds step text) : rest.length ≤ text.length := by
  fun_induction rounds step text with
  | case1 text ih =>
    rcases List.mem_append.mp member with more | last
    · obtain ⟨middle, first, inside⟩ := List.mem_flatMap.mp more
      split at inside
      · next shorter => exact Nat.le_trans (ih middle shorter inside) (bounded text middle first)
      · contradiction
    · obtain rfl := List.mem_singleton.mp last
      exact Nat.le_refl _

private theorem length_le_of_mem_rests {pattern : Pattern} {text rest : Text}
    (member : rest ∈ pattern.rests text) : rest.length ≤ text.length := by
  induction pattern generalizing text rest with
  | char accepts =>
    obtain ⟨first, rfl, -⟩ := (mem_rests_char_iff accepts text rest).mp member
    simp
  | seq first second ihFirst ihSecond =>
    obtain ⟨middle, inFirst, inSecond⟩ := List.mem_flatMap.mp member
    exact Nat.le_trans (ihSecond inSecond) (ihFirst inFirst)
  | alt first second ihFirst ihSecond => exact (List.mem_append.mp member).elim ihFirst ihSecond
  | star body ih => exact length_le_of_mem_rounds (fun _ _ => ih) member

private theorem length_lt_of_mem_rests {pattern : Pattern} (consumes : pattern.Consumes)
    {text rest : Text} (member : rest ∈ pattern.rests text) : rest.length < text.length := by
  induction pattern generalizing text rest with
  | char accepts =>
    obtain ⟨first, rfl, -⟩ := (mem_rests_char_iff accepts text rest).mp member
    simp
  | seq first second ihFirst ihSecond =>
    obtain ⟨middle, inFirst, inSecond⟩ := List.mem_flatMap.mp member
    rcases consumes with consumes | consumes
    · exact Nat.lt_of_le_of_lt (length_le_of_mem_rests inSecond) (ihFirst consumes inFirst)
    · exact Nat.lt_of_lt_of_le (ihSecond consumes inSecond) (length_le_of_mem_rests inFirst)
  | alt first second ihFirst ihSecond =>
    exact (List.mem_append.mp member).elim (ihFirst consumes.1) (ihSecond consumes.2)
  | star body _ => exact consumes.elim

theorem rest?_char_cons (accepts : Char → Bool) (first : Char) (text : Text) :
    (char accepts).rest? (first :: text) = if accepts first then some text else none := by
  rw [rest?, rests]
  split <;> rfl

theorem rest?_alt (first second : Pattern) (text : Text) :
    (alt first second).rest? text = (first.rest? text).or (second.rest? text) := by
  rw [rest?, rests, List.head?_append]
  rfl

/-- Where the second part refuses what the first left, the first goes on with its next way. -/
theorem rest?_seq (first second : Pattern) (text : Text) :
    (seq first second).rest? text = (first.rests text).findSome? second.rest? := by
  rw [rest?, rests, List.head?_flatMap]
  rfl

/-- A second part that never refuses follows the preferred match of the first one. -/
theorem rest?_seq_of_succeeds (first : Pattern) {second : Pattern}
    (succeeds : ∀ text, second.rest? text ≠ none) (text : Text) :
    (seq first second).rest? text = (first.rest? text).bind second.rest? := by
  rw [rest?_seq]
  conv_rhs => rw [rest?]
  cases first.rests text with
  | nil => rfl
  | cons rest more =>
    obtain ⟨after, found⟩ := Option.ne_none_iff_exists'.mp (succeeds rest)
    rw [List.findSome?_cons, List.head?_cons, Option.bind_some, found]

theorem rests_star {body : Pattern} (consumes : body.Consumes) (text : Text) :
    (star body).rests text = (seq body (star body)).rests text ++ [text] := by
  conv_lhs => rw [rests, rounds]
  congr 1
  apply List.flatMap_congr
  intro rest member
  rw [if_pos (length_lt_of_mem_rests consumes member), rests]

private theorem findSome?_flatMap {α β γ : Type} (items : List α) (parts : α → List β)
    (test : β → Option γ) :
    (items.flatMap parts).findSome? test =
      items.findSome? fun item => (parts item).findSome? test := by
  induction items with
  | nil => rfl
  | cons item rest ih =>
    rw [List.flatMap_cons, List.findSome?_append, ih, List.findSome?_cons]
    cases (parts item).findSome? test <;> rfl

/-- A repetition in front of something goes on with each way of its body in turn, and stops only
where all of them fail. -/
theorem rest?_seq_star {body : Pattern} (consumes : body.Consumes) (last : Pattern) (text : Text) :
    (seq (star body) last).rest? text =
      ((body.rests text).findSome? (seq (star body) last).rest?).or (last.rest? text) := by
  rw [rest?_seq, rests_star consumes, rests, List.findSome?_append, findSome?_flatMap]
  simp only [← rest?_seq, List.findSome?_singleton]

theorem rest?_star_ne_none {body : Pattern} (consumes : body.Consumes) (text : Text) :
    (star body).rest? text ≠ none := by
  rw [rest?, rests_star consumes]
  simp

/-- A repetition that nothing follows takes the preferred match of its body in every round. -/
theorem rest?_star {body : Pattern} (consumes : body.Consumes) (text : Text) :
    (star body).rest? text = ((body.rest? text).bind (star body).rest?).or (some text) := by
  rw [← rest?_seq_of_succeeds body (rest?_star_ne_none consumes), rest?, rests_star consumes,
    List.head?_append]
  rfl

theorem rest?_plus {body : Pattern} (consumes : body.Consumes) (text : Text) :
    body.plus.rest? text = (body.rest? text).bind (star body).rest? :=
  rest?_seq_of_succeeds body (rest?_star_ne_none consumes) text

theorem findAll_cons_of_none {pattern : Pattern} {first : Char} {text : Text}
    (refused : pattern.rest? (first :: text) = none) :
    pattern.findAll (first :: text) = pattern.findAll text := by
  rw [findAll, refused]

theorem findAll_append {pattern : Pattern} {taken rest : Text} (nonempty : taken ≠ [])
    (found : pattern.rest? (taken ++ rest) = some rest) :
    pattern.findAll (taken ++ rest) = taken :: pattern.findAll rest := by
  cases taken with
  | nil => contradiction
  | cons first taken =>
    rw [List.cons_append] at found ⊢
    have shorter : rest.length < (taken ++ rest).length + 1 := by
      rw [List.length_append]
      omega
    have length : (taken ++ rest).length + 1 - rest.length = (first :: taken).length := by
      rw [List.length_append, List.length_cons]
      omega
    rw [findAll, found]
    simp only [if_pos shorter, length]
    rw [← List.cons_append, List.take_left]

end Pattern

end FlatSheet
