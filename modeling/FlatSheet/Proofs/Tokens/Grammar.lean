import FlatSheet.Proofs.Tokens.Segment

/-! # The grammar of segments

Which lists of segments a text can fall into. A run either closes by itself, at a quote that is not
escaped, or every quote from its body on is escaped, and then its closing quote is the last quote of
the text. A quote in a gap is the last one of the text as well. So only one segment at most depends
on what comes after it.

The grammar and the text determine the segments, so each orderly list is the list of exactly the
text that it spells.
-/

namespace FlatSheet.Tokens

/-- The quote after the body is the first one that is not escaped. -/
def Closed (body : Text) : Prop := unescapedQuote? (body ++ ['"']) = some body.length

/-- The quote after the body is escaped, and so is every quote in the body. -/
def Unclosed (body : Text) : Prop := unescapedQuote? (body ++ ['"']) = none

/-- The lists of segments that texts fall into. -/
inductive Orderly : List Segment → Prop
  | nil : Orderly []
  | gap {char : Char} {rest : List Segment} (separator : isSeparator char = true)
      (orderly : Orderly rest) : Orderly (.gap char :: rest)
  | stray {rest : List Segment} (last : '"' ∉ spell rest) (orderly : Orderly rest) :
      Orderly (.gap '"' :: rest)
  | plain {char : Char} {rest : List Segment} (notSeparator : isSeparator char = false)
      (notQuote : char ≠ '"') (orderly : Orderly rest) : Orderly (.plain char :: rest)
  | closed {body : Text} {rest : List Segment} (closed : Closed body) (orderly : Orderly rest) :
      Orderly (.run body :: rest)
  | unclosed {body : Text} {rest : List Segment} (unclosed : Unclosed body)
      (last : '"' ∉ spell rest) (orderly : Orderly rest) : Orderly (.run body :: rest)

theorem Orderly.tail {segment : Segment} {rest : List Segment}
    (orderly : Orderly (segment :: rest)) : Orderly rest := by
  cases orderly <;> assumption

private theorem orderly_of_append {group rest : List Segment} (orderly : Orderly (group ++ rest)) :
    Orderly rest := by
  induction group with
  | nil => exact orderly
  | cons segment group ih => exact ih orderly.tail

/-- Orderly lists are built from gaps and from groups, each of which goes on up to a gap or to the
end of the list. -/
@[elab_as_elim]
theorem Orderly.group_induction {motive : (list : List Segment) → Orderly list → Prop}
    (nil : motive [] .nil)
    (gap : ∀ char rest (orderly : Orderly (.gap char :: rest)), motive rest orderly.tail →
      motive (.gap char :: rest) orderly)
    (group : ∀ group rest, group ≠ [] → (∀ segment ∈ group, segment.isGap = false) →
      (∀ segment ∈ rest.head?, segment.isGap = true) → (orderly : Orderly (group ++ rest)) →
      motive rest (orderly_of_append orderly) → motive (group ++ rest) orderly)
    (list : List Segment) (orderly : Orderly list) : motive list orderly := by
  induction size : list.length using Nat.strongRecOn generalizing list with
  | ind size ih =>
    subst size
    obtain ⟨start, rest, rfl, solid, ended⟩ := exists_group_append list
    match start with
    | segment :: start =>
      have shorter : rest.length < (segment :: start ++ rest).length := by
        rw [List.length_append, List.length_cons]
        omega
      exact group _ rest (List.cons_ne_nil segment start) solid ended orderly
        (ih rest.length shorter rest _ rfl)
    | [] =>
      match rest with
      | [] => exact nil
      | .gap char :: rest => exact gap char rest orderly (ih rest.length (by simp) rest _ rfl)
      | .plain char :: rest => exact absurd (ended _ rfl) nofun
      | .run body :: rest => exact absurd (ended _ rfl) nofun

theorem unescapedQuote?_plain {char : Char} (notQuote : char ≠ '"') (notEscape : char ≠ '\\')
    (rest : Text) : unescapedQuote? (char :: rest) = (unescapedQuote? rest).map (· + 1) := by
  rw [unescapedQuote?]
  · exact notQuote
  · intro next after same
    contradiction

/-- An index below a bound stays below it when both move on. -/
private theorem shifted_iff {first second : Option Nat} {bound : Nat}
    (same : ∀ index, first = some index ↔ second = some index ∧ index < bound) (shift index : Nat) :
    first.map (· + shift) = some index ↔
      second.map (· + shift) = some index ∧ index < bound + shift := by
  simp only [Option.map_eq_some_iff, same]
  constructor
  · rintro ⟨before, ⟨found, below⟩, rfl⟩
    exact ⟨⟨before, found, rfl⟩, by omega⟩
  · rintro ⟨⟨before, found, rfl⟩, below⟩
    exact ⟨before, ⟨found, by omega⟩, rfl⟩

/-- Whether a quote is escaped depends only on the characters before it. -/
theorem unescapedQuote?_append_eq_some_iff (first second : Text) (index : Nat) :
    unescapedQuote? first = some index ↔
      unescapedQuote? (first ++ second) = some index ∧ index < first.length := by
  fun_induction unescapedQuote? first generalizing index with
  | case1 => simp
  | case2 rest =>
    have here : unescapedQuote? ('"' :: rest ++ second) = some 0 := rfl
    rw [here, Option.some.injEq, List.length_cons]
    omega
  | case3 next rest newline ih =>
    have step : unescapedQuote? ('\\' :: next :: rest ++ second) =
        (unescapedQuote? (next :: rest ++ second)).map (· + 1) := by
      simp [unescapedQuote?, newline]
    rw [step]
    exact shifted_iff ih 1 index
  | case4 next rest other ih =>
    have step : unescapedQuote? ('\\' :: next :: rest ++ second) =
        (unescapedQuote? (rest ++ second)).map (· + 2) := unescapedQuote?_pair next (rest ++ second)
    rw [step]
    exact shifted_iff ih 2 index
  | case5 char rest notQuote notPair ih =>
    by_cases escape : char = '\\'
    · subst escape
      obtain rfl : rest = [] := by
        cases rest with
        | nil => rfl
        | cons next after => exact (notPair next after rfl rfl).elim
      have later : unescapedQuote? ('\\' :: second) ≠ some 0 := by
        cases second with
        | nil => simp [unescapedQuote?]
        | cons next after => simp [unescapedQuote?_pair]
      constructor
      · intro missing
        contradiction
      · rintro ⟨found, below⟩
        obtain rfl : index = 0 := by simpa using below
        exact absurd found later
    · have step : unescapedQuote? (char :: rest ++ second) =
          (unescapedQuote? (rest ++ second)).map (· + 1) :=
        unescapedQuote?_plain notQuote escape (rest ++ second)
      rw [step]
      exact shifted_iff ih 1 index

/-- Where no quote follows, only quotes before can be free of an escape. -/
theorem unescapedQuote?_append_of_notMem (first : Text) {second : Text} (last : '"' ∉ second) :
    unescapedQuote? (first ++ second) = unescapedQuote? first := by
  cases found : unescapedQuote? (first ++ second) with
  | none =>
    cases before : unescapedQuote? first with
    | none => rfl
    | some index =>
      have both := (unescapedQuote?_append_eq_some_iff first second index).mp before
      rw [found] at both
      exact absurd both.1 nofun
  | some index =>
    refine ((unescapedQuote?_append_eq_some_iff first second index).mpr ⟨found, ?_⟩).symm
    obtain ⟨body, rest, same, rfl⟩ := unescapedQuote?_eq_some found
    refine Nat.lt_of_not_le fun beyond => ?_
    obtain ⟨middle, rfl⟩ : first <+: body :=
      List.prefix_of_prefix_length_le (List.prefix_append first second)
        (same ▸ List.prefix_append body ('"' :: rest)) (by omega)
    rw [List.append_assoc] at same
    rw [List.append_cancel_left same] at last
    simp at last

private theorem finalQuote?_append_quote_iff (body after : Text) :
    finalQuote? (body ++ '"' :: after) = some body.length ↔ '"' ∉ after := by
  constructor
  · intro found
    obtain ⟨before, rest, same, length, last⟩ := finalQuote?_eq_some found
    obtain ⟨-, atQuote⟩ := List.append_inj same length.symm
    rwa [(List.cons.inj atQuote).2]
  · intro last
    induction body with
    | nil => simp [finalQuote?, (finalQuote?_eq_none_iff after).mpr last]
    | cons char body ih => simp [finalQuote?, ih]

/-- Where a run ends depends on what follows only if its quotes are all escaped. -/
theorem bodyLength?_append_quote_iff (body after : Text) :
    bodyLength? (body ++ '"' :: after) = some body.length ↔
      Closed body ∨ Unclosed body ∧ '"' ∉ after := by
  have closed : unescapedQuote? (body ++ '"' :: after) = some body.length ↔ Closed body := by
    rw [Closed, unescapedQuote?_append_eq_some_iff (body ++ ['"']) after, ← List.append_cons]
    simp
  have unclosed (last : '"' ∉ after) :
      unescapedQuote? (body ++ '"' :: after) = none ↔ Unclosed body := by
    rw [Unclosed, List.append_cons, unescapedQuote?_append_of_notMem _ last]
  cases found : unescapedQuote? (body ++ '"' :: after) with
  | some index =>
    have noneUnclosed : ¬(Unclosed body ∧ '"' ∉ after) := by
      rintro ⟨escaped, last⟩
      rw [(unclosed last).mpr escaped] at found
      contradiction
    rw [or_iff_left noneUnclosed, ← closed, bodyLength?, found]
    rfl
  | none =>
    have notClosed : ¬Closed body := by
      rw [← closed, found]
      simp
    rw [or_iff_right notClosed, bodyLength?, found, Option.none_or, finalQuote?_append_quote_iff]
    exact ⟨fun last => ⟨(unclosed last).mp found, last⟩, And.right⟩

theorem bodyLength?_eq_none_iff (rest : Text) : bodyLength? rest = none ↔ '"' ∉ rest := by
  rw [bodyLength?, Option.or_eq_none_iff, finalQuote?_eq_none_iff, and_iff_right_iff_imp]
  intro last
  simpa [unescapedQuote?] using unescapedQuote?_append_of_notMem [] last

/-- Every text falls into orderly segments. -/
theorem orderly_segments (text : Text) : Orderly (segments text) := by
  induction text using segments_induction with
  | nil =>
    rw [segments]
    exact .nil
  | separator char rest separator ih =>
    rw [segments_separator separator]
    exact .gap separator ih
  | stray rest missing ih =>
    rw [segments_stray missing]
    exact .stray (by rwa [spell_segments, ← bodyLength?_eq_none_iff]) ih
  | plain char rest notSeparator notQuote ih =>
    rw [segments_plain notSeparator notQuote]
    exact .plain notSeparator notQuote ih
  | run body after found ih =>
    rw [segments_run found]
    rcases (bodyLength?_append_quote_iff body after).mp found with closed | ⟨unclosed, last⟩
    · exact .closed closed ih
    · exact .unclosed unclosed (by rwa [spell_segments]) ih

theorem spell_run (body : Text) (rest : List Segment) :
    spell (.run body :: rest) = '"' :: (body ++ '"' :: spell rest) := by
  simp [spell, Segment.text]

/-- The run of an orderly list ends at the quote after its body. -/
theorem Orderly.bodyLength?_eq {body : Text} {rest : List Segment}
    (orderly : Orderly (.run body :: rest)) :
    bodyLength? (body ++ '"' :: spell rest) = some body.length := by
  rw [bodyLength?_append_quote_iff]
  cases orderly with
  | closed closed _ => exact .inl closed
  | unclosed unclosed last _ => exact .inr ⟨unclosed, last⟩

/-- Orderly segments are those of the text that they spell. -/
theorem Orderly.segments_spell {list : List Segment} (orderly : Orderly list) :
    segments (spell list) = list := by
  induction orderly with
  | nil => simp [spell, segments]
  | @gap char rest separator _ ih =>
    change segments (char :: spell rest) = _
    rw [segments_separator separator, ih]
  | @stray rest last _ ih =>
    change segments ('"' :: spell rest) = _
    rw [segments_stray ((bodyLength?_eq_none_iff _).mpr last), ih]
  | @plain char rest notSeparator notQuote _ ih =>
    change segments (char :: spell rest) = _
    rw [segments_plain notSeparator notQuote, ih]
  | closed closed orderly ih =>
    rw [spell_run, segments_run (orderly.closed closed).bodyLength?_eq, ih]
  | unclosed unclosed last orderly ih =>
    rw [spell_run, segments_run (orderly.unclosed unclosed last).bodyLength?_eq, ih]

end FlatSheet.Tokens
