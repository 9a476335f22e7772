import FlatSheet.Proofs.Content.Decision

/-! # The name of a function

The name in a formula follows the last equals sign of the whole cell and ends at the next opening
parenthesis, or with the cell. As long as no equals sign follows the first opening parenthesis, this
is the word in front of it, whatever else the payload and the text behind it hold. An equals sign
there moves the name behind it. The conditional function is exempt when it is written in capitals:
its condition may have equals signs of its own. In any other case of its letters it is found like any
other function, and a condition with an equals sign then hides it.
-/

namespace FlatSheet

/-- A blank character has no capital. -/
theorem toUpper_of_isBlank {char : Char} (blank : isBlank char = true) : char.toUpper = char := by
  change (if _ : char.val ≥ 97 ∧ char.val ≤ 122 then _ else char) = char
  rw [dif_neg]
  intro small
  have codes : 97 ≤ char.toNat ∧ char.toNat ≤ 122 := small
  simp only [isBlank, Bool.or_eq_true, Bool.and_eq_true, decide_eq_true_eq, beq_iff_eq] at blank
  omega

namespace Builtin

variable {function : Builtin} {word : Text}

/-- A name has none of the marks that end it, and no blanks around it. -/
theorem name_plain (function : Builtin) :
    '=' ∉ function.name ∧ '(' ∉ function.name ∧ function.name.trim = function.name := by
  cases function <;> decide +kernel

private theorem not_isBlank_of_mem_name {char : Char} (member : char ∈ function.name) :
    isBlank char = false := by
  have none : function.name.all (fun char => !isBlank char) = true := by
    cases function <;> decide
  simpa using List.all_eq_true.mp none char member

theorem upper_name (function : Builtin) : function.name.upper = function.name := by
  cases function <;> rfl

/-- A character without a capital of its own is in the name as well. -/
theorem mem_name_of_mem (spelled : word.upper = function.name) {char : Char} (member : char ∈ word)
    (kept : char.toUpper = char) : char ∈ function.name := by
  rw [← spelled, ← kept]
  exact List.mem_map_of_mem member

/-- A spelling of a name has none of the marks that end it, and no blanks. -/
theorem spelling_plain (spelled : word.upper = function.name) :
    '=' ∉ word ∧ '(' ∉ word ∧ word.trim = word := by
  obtain ⟨noEquals, noParenthesis, -⟩ := function.name_plain
  have noBlank : ∀ char ∈ word, isBlank char = false := by
    intro char member
    by_contra blank
    rw [Bool.not_eq_false] at blank
    have present := mem_name_of_mem spelled member (toUpper_of_isBlank blank)
    rw [not_isBlank_of_mem_name present] at blank
    contradiction
  refine ⟨fun member => noEquals (mem_name_of_mem spelled member rfl),
    fun member => noParenthesis (mem_name_of_mem spelled member rfl), Text.trim_eq_self ⟨?_, ?_⟩⟩
  · exact fun char first => noBlank char (List.mem_of_mem_head? first)
  · exact fun char last => noBlank char (List.mem_of_mem_getLast? last)

private theorem lookup_spelling (spelled : word.upper = function.name) :
    lookup word = .ok function := by
  have named : named? word = some function := by
    rw [named?, (spelling_plain spelled).2.2, spelled]
    cases function <;> rfl
  rw [lookup, named]

end Builtin

namespace Content

/-- The word in front of the first opening parenthesis, back to the equals sign before it, and what
follows the parenthesis. -/
def NamesBefore (cell word rest : Text) : Prop :=
  ∃ before, cell = before ++ '=' :: (word ++ '(' :: rest) ∧ '(' ∉ before ∧ '=' ∉ word ∧ '(' ∉ word

/-- The word behind the last equals sign, up to an opening parenthesis or to the end. -/
def NamesLast (cell word : Text) : Prop :=
  ∃ before rest, cell = before ++ '=' :: (word ++ rest) ∧ '=' ∉ word ++ rest ∧ '(' ∉ word ∧
    ∀ char ∈ rest.head?, char = '('

/-- A cell applies the function with a name to its payload, or the name is a fault. -/
def Applies (raw name payload : Text) : Prop :=
  (∀ function, Builtin.lookup name = .ok function → ∃ arguments,
    Arguments.Selects payload arguments ∧ classify raw = .ok (.formula function arguments)) ∧
  ((∀ function, Builtin.lookup name ≠ .ok function) →
    classify raw = .error (.unknownFunction name))

section

variable {raw cell payload word rest : Text}

theorem functionName_of_not_conditional (other : ¬['=', 'I', 'F'] <+: cell) :
    functionName cell = ((Text.afterLast '=' (cell.drop 1)).beforeFirst '(').trim := by
  unfold functionName
  split
  · next rest => exact absurd ⟨rest, rfl⟩ other
  · rfl

theorem functionName_of_namesLast (starts : cell.head? = some '=')
    (other : ¬['=', 'I', 'F'] <+: cell) (names : NamesLast cell word) :
    functionName cell = word.trim := by
  obtain ⟨before, rest, rfl, last, noParenthesis, ended⟩ := names
  have behind : Text.afterLast '=' ((before ++ '=' :: (word ++ rest)).drop 1) = word ++ rest := by
    cases before with
    | nil => exact Text.afterLast_eq_self last
    | cons first before => exact Text.afterLast_append before last
  have cut : Text.beforeFirst '(' (word ++ rest) = word :=
    Text.takeWhile_append_of_ended (Text.ne_of_notMem noParenthesis) fun char first => by
      simp [ended char first]
  rw [functionName_of_not_conditional other, behind, cut]

private theorem NamesBefore.namesLast (names : NamesBefore cell word rest) (absent : '=' ∉ rest) :
    NamesLast cell word := by
  obtain ⟨before, rfl, -, noEquals, noParenthesis⟩ := names
  exact ⟨before, '(' :: rest, rfl, by simp [noEquals, absent], noParenthesis, by simp⟩

private theorem exists_namesBefore (starts : cell.head? = some '=')
    (encloses : Encloses cell payload) :
    ∃ word rest, NamesBefore cell word rest := by
  obtain ⟨front, behind, rfl, first, -⟩ := encloses
  have present : '=' ∈ front := by
    cases front with
    | nil => simp at starts
    | cons char front => simpa [eq_comm] using Or.inl (b := '=' ∈ front) starts
  obtain ⟨before, word, rfl, last⟩ := Text.exists_last_of_mem present
  rw [List.mem_append, List.mem_cons, not_or, not_or] at first
  obtain ⟨noneBefore, -, noneInside⟩ := first
  exact ⟨word, payload ++ ')' :: behind, before, by simp, noneBefore, last, noneInside⟩

private theorem exists_namesLast (starts : cell.head? = some '=') :
    ∃ word, NamesLast cell word := by
  have present : '=' ∈ cell := List.mem_of_mem_head? starts
  obtain ⟨before, behind, rfl, last⟩ := Text.exists_last_of_mem present
  have whole : behind.beforeFirst '(' ++ behind.dropWhile (· != '(') = behind :=
    List.takeWhile_append_dropWhile
  refine ⟨behind.beforeFirst '(', before, behind.dropWhile (· != '('), by rw [whole],
    by rwa [whole], Text.notMem_beforeFirst '(' behind, fun char first => ?_⟩
  have refused := List.head?_dropWhile_not (· != '(') behind
  rw [Option.mem_def.mp first] at refused
  simpa using refused

private theorem applies_functionName (formula : HoldsFormula raw cell)
    (encloses : Encloses cell payload)
    (usable : Arguments.Usable payload) : Applies raw (functionName cell) payload := by
  obtain ⟨arguments, selects⟩ := (Arguments.exists_selects_iff payload).mpr usable
  rw [Applies, classify_of_holdsFormula formula, ofFormula_of_selects encloses selects]
  cases named : Builtin.lookup (functionName cell) with
  | ok function =>
    refine ⟨fun other same => ⟨arguments, selects, ?_⟩, fun unnamed => absurd rfl (unnamed function)⟩
    rw [Except.ok.inj same]
    rfl
  | error fault =>
    refine ⟨fun other same => (nomatch same), fun _ => ?_⟩
    rw [lookup_eq_error named]
    rfl

end

/-- A formula with a usable payload has a word in front of its first opening parenthesis and one
behind its last equals sign. As long as no equals sign follows that parenthesis, the function in
front of it is applied, and nothing in the payload or behind it can change that. Where one follows,
the word behind the last one is the name, apart from conditional functions in small letters. -/
theorem classify_applies_last_name (raw cell payload : Text) (formula : HoldsFormula raw cell)
    (other : ¬"=IF".toList <+: cell) (encloses : Encloses cell payload)
    (usable : Arguments.Usable payload) :
    (∃ word rest, NamesBefore cell word rest) ∧
    (∀ word rest, NamesBefore cell word rest → '=' ∉ rest → Applies raw word.trim payload) ∧
    (∃ word, NamesLast cell word) ∧
    (¬"=IF".toList <+: cell.upper → ∀ word, NamesLast cell word →
      Applies raw word.trim payload) := by
  have named {word : Text} (names : NamesLast cell word) : Applies raw word.trim payload := by
    have applies := applies_functionName formula encloses usable
    rwa [functionName_of_namesLast formula.starts other names] at applies
  exact ⟨exists_namesBefore formula.starts encloses,
    fun word rest names absent => named (names.namesLast absent),
    exists_namesLast formula.starts, fun _ word names => named names⟩

/-- A name in front of a payload with parentheses of its own, and a name behind the payload. -/
theorem classify_applies_last_name_behind :
    let quoted := "\"==Sum ( A1,)2)x\"".toList
    let moved := "=SUM(A1:B1)=COUNT(".toList
    Applies quoted "Sum".toList " A1,)2".toList ∧
      classify quoted = .ok (.formula .sum (.list ["A1".toList, ")2".toList])) ∧
      Applies moved "COUNT".toList "A1:B1".toList ∧
      classify moved = .ok (.formula .count (.range "A1".toList "B1".toList)) := by
  intro quoted moved
  have inner : HoldsFormula quoted "==Sum ( A1,)2)x".toList := ⟨(unquoted_eq_iff ..).mp rfl, rfl⟩
  have whole : HoldsFormula moved moved := ⟨(unquoted_eq_iff ..).mp rfl, rfl⟩
  obtain ⟨-, before, -, -⟩ := classify_applies_last_name _ _ " A1,)2".toList inner (by decide)
    ((payload?_eq_some_iff ..).mp rfl) (by decide)
  obtain ⟨-, -, -, last⟩ := classify_applies_last_name _ _ "A1:B1".toList whole (by decide)
    ((payload?_eq_some_iff ..).mp rfl) (by decide)
  have sum := before "Sum ".toList " A1,)2)x".toList
    ⟨"=".toList, rfl, by decide, by decide, by decide⟩ (by decide)
  have count := last (by decide) "COUNT".toList
    ⟨"=SUM(A1:B1)".toList, "(".toList, rfl, by decide, by decide,
      fun char first => (Option.some.inj first).symm⟩
  obtain ⟨arguments, selects, applied⟩ := sum.1 .sum rfl
  obtain ⟨others, alsoSelects, alsoApplied⟩ := count.1 .count rfl
  rw [selects.unique ((Arguments.ofPayload?_eq_some_iff ..).mp rfl)] at applied
  rw [alsoSelects.unique ((Arguments.ofPayload?_eq_some_iff ..).mp rfl)] at alsoApplied
  exact ⟨sum, applied, count, alsoApplied⟩

/-- A name behind the payload is applied in place of the one in front of it. -/
theorem name_before_parenthesis_overruled :
    ¬∀ raw cell payload word rest, HoldsFormula raw cell → ¬"=IF".toList <+: cell →
      Encloses cell payload → Arguments.Usable payload → NamesBefore cell word rest →
      Applies raw word.trim payload := by
  intro rule
  let cell := "=SUM(A1:B1)=COUNT".toList
  have whole : HoldsFormula cell cell := ⟨(unquoted_eq_iff ..).mp rfl, rfl⟩
  have names : NamesBefore cell "SUM".toList "A1:B1)=COUNT".toList :=
    ⟨[], rfl, by decide, by decide, by decide⟩
  have applies := rule cell cell "A1:B1".toList _ _ whole (by decide)
    ((payload?_eq_some_iff ..).mp rfl) (by decide) names
  obtain ⟨arguments, -, applied⟩ := applies.1 .sum rfl
  have counted : classify cell = .ok (.formula .count (.range "A1".toList "B1".toList)) := rfl
  rw [counted] at applied
  cases applied

/-- A formula as it is written with a name and a payload. -/
def written (word payload : Text) : Text := '=' :: word ++ '(' :: payload ++ [')']

section

variable {function : Builtin} {word payload : Text}

theorem encloses_written (noParenthesis : '(' ∉ word) (payload : Text) :
    Encloses (written word payload) payload :=
  ⟨'=' :: word, [], by simp [written], by simp [noParenthesis], List.not_mem_nil⟩

theorem holdsFormula_written (word payload : Text) :
    HoldsFormula (written word payload) (written word payload) :=
  ⟨(unquoted_eq_iff ..).mp rfl, rfl⟩

private theorem holdsFormula_quoted_written (word payload : Text) :
    HoldsFormula ('"' :: written word payload ++ ['"']) (written word payload) :=
  ⟨.quoted _, rfl⟩

/-- Only the conditional function in capitals has its name fixed by how the formula starts. -/
theorem eq_of_conditional_written (spelled : word.upper = function.name)
    (conditional : ['=', 'I', 'F'] <+: written word payload) :
    function = .ifElse ∧ word = function.name := by
  obtain ⟨rest, cut⟩ := conditional
  match word, cut with
  | [], cut => simp [written] at cut
  | [first], cut => simp [written] at cut
  | first :: second :: more, cut =>
    obtain ⟨rfl, rfl, -⟩ : 'I' = first ∧ 'F' = second ∧ _ := by simpa [written] using cut
    have start : ['I', 'F'] <+: function.name := ⟨Text.upper more, spelled⟩
    have isIf : function = .ifElse := by
      revert start
      cases function <;> decide
    subst isIf
    have none : Text.upper more = [] := (List.cons.inj (List.cons.inj spelled).2).2
    exact ⟨rfl, by rw [List.map_eq_nil_iff.mp none]; rfl⟩

theorem namesLast_written (spelled : word.upper = function.name) (absent : '=' ∉ payload) :
    NamesLast (written word payload) word := by
  obtain ⟨noEquals, noParenthesis, -⟩ := Builtin.spelling_plain spelled
  exact ⟨[], '(' :: payload ++ [')'], by simp [written], by simp [noEquals, absent], noParenthesis,
    by simp⟩

private theorem lookup_functionName_written (spelled : word.upper = function.name)
    (absent : '=' ∉ payload) :
    Builtin.lookup (functionName (written word payload)) = .ok function := by
  by_cases conditional : ['=', 'I', 'F'] <+: written word payload
  · obtain ⟨rfl, rfl⟩ := eq_of_conditional_written spelled conditional
    rfl
  · rw [functionName_of_namesLast rfl conditional (namesLast_written spelled absent),
      (Builtin.spelling_plain spelled).2.2]
    exact Builtin.lookup_spelling spelled

/-- An equals sign in the payload hides the name in front of it. -/
theorem functionName_written (spelled : word.upper = function.name)
    (found : function ≠ .ifElse ∨ word ≠ function.name) (present : '=' ∈ payload) :
    functionName (written word payload) =
      (Text.beforeFirst '(' (Text.afterLast '=' payload ++ [')'])).trim := by
  have other : ¬['=', 'I', 'F'] <+: written word payload := by
    intro conditional
    obtain ⟨isIf, capitals⟩ := eq_of_conditional_written spelled conditional
    exact found.elim (· isIf) (· capitals)
  obtain ⟨front, tail, rfl, last⟩ := Text.exists_last_of_mem present
  have behind : Text.afterLast '=' ((written word (front ++ '=' :: tail)).drop 1) =
      tail ++ [')'] := by
    have parts : (written word (front ++ '=' :: tail)).drop 1 =
        word ++ '(' :: front ++ '=' :: (tail ++ [')']) := by
      simp [written]
    rw [parts, Text.afterLast_append _ (by simp [last])]
  rw [functionName_of_not_conditional other, behind, Text.afterLast_append _ last]

private theorem classify_written_of_selects {arguments : Arguments} (noParenthesis : '(' ∉ word)
    (selects : Arguments.Selects payload arguments) :
    classify (written word payload) =
      (Builtin.lookup (functionName (written word payload))).map (formula · arguments) := by
  rw [classify_of_holdsFormula (holdsFormula_written word payload),
    ofFormula_of_selects (encloses_written noParenthesis payload) selects]

/-- A conditional function that is found in spite of small letters and an equals sign is named once
more, behind that sign. -/
theorem lookup_of_classify_written (spelled : word.upper = Builtin.ifElse.name)
    (small : word ≠ Builtin.ifElse.name) (usable : Arguments.Usable payload)
    (present : '=' ∈ payload)
    (same : classify (written word payload) = classify (written Builtin.ifElse.name payload)) :
    Builtin.lookup (Text.beforeFirst '(' (Text.afterLast '=' payload ++ [')'])).trim =
      .ok .ifElse := by
  obtain ⟨arguments, selects⟩ := (Arguments.exists_selects_iff payload).mpr usable
  have capitals : classify (written Builtin.ifElse.name payload) =
      .ok (.formula .ifElse arguments) :=
    classify_written_of_selects (by decide) selects
  rw [capitals, classify_written_of_selects (Builtin.spelling_plain spelled).2.1 selects,
    functionName_written spelled (.inr small) present] at same
  generalize Builtin.lookup _ = named at same ⊢
  cases named with
  | ok function =>
    obtain ⟨rfl, -⟩ := Content.formula.inj (Except.ok.inj same)
    rfl
  | error fault => contradiction

/-- Two spellings of a name give the same formula when both say the same about the function. -/
theorem ofFormula_written_congr {other : Text} (spelled : word.upper = function.name)
    (alsoSpelled : other.upper = function.name)
    (same : Arguments.Usable payload → Builtin.lookup (functionName (written word payload)) =
      Builtin.lookup (functionName (written other payload))) :
    ofFormula (written word payload) = ofFormula (written other payload) := by
  have encloses := encloses_written (Builtin.spelling_plain spelled).2.1 payload
  have alsoEncloses := encloses_written (Builtin.spelling_plain alsoSpelled).2.1 payload
  by_cases usable : Arguments.Usable payload
  · obtain ⟨arguments, selects⟩ := (Arguments.exists_selects_iff payload).mpr usable
    rw [ofFormula_of_selects encloses selects, ofFormula_of_selects alsoEncloses selects,
      same usable]
  · rw [ofFormula_of_unusable fun _ enclosed => encloses.unique enclosed ▸ usable,
      ofFormula_of_unusable fun _ enclosed => alsoEncloses.unique enclosed ▸ usable]

end

/-- Quotes around a formula do not matter, and a name may be written in any case of its letters. The
one exception is a conditional function that is not in capitals and whose usable payload has an
equals sign: it counts as such only if the text behind the last equals sign names the function once
more. -/
theorem classify_any_case (function : Builtin) (word payload : Text)
    (spelled : word.upper = function.name) :
    (∀ name, classify ('"' :: written name payload ++ ['"']) = classify (written name payload)) ∧
    (classify (written word payload) = classify (written function.name payload) ↔
      (function = .ifElse → word ≠ function.name → Arguments.Usable payload → '=' ∈ payload →
        Builtin.lookup (Text.beforeFirst '(' (Text.afterLast '=' payload ++ [')'])).trim =
          .ok .ifElse)) := by
  refine ⟨fun name => ?_, fun same => ?_, fun exempt => ?_⟩
  · rw [classify_of_holdsFormula (holdsFormula_quoted_written name payload),
      classify_of_holdsFormula (holdsFormula_written name payload)]
  · rintro rfl small usable present
    exact lookup_of_classify_written spelled small usable present same
  · rw [classify_of_holdsFormula (holdsFormula_written _ _),
      classify_of_holdsFormula (holdsFormula_written _ _)]
    refine ofFormula_written_congr spelled function.upper_name fun usable => ?_
    by_cases present : '=' ∈ payload
    · by_cases capitals : word = function.name
      · rw [capitals]
      · by_cases conditional : function = .ifElse
        · rw [functionName_written spelled (.inr capitals) present,
            exempt conditional capitals usable present, conditional]
          rfl
        · rw [functionName_written spelled (.inl conditional) present,
            functionName_written function.upper_name (.inl conditional) present]
    · rw [lookup_functionName_written spelled present,
        lookup_functionName_written function.upper_name present]

/-- A quoted sum in small letters with a payload that hides its name, and conditional functions in
small letters without an equals sign, with one, and with one in front of the function itself. -/
theorem classify_any_case_conditional :
    classify "\"=sUm(A1,A=SUM(1)\"".toList = classify "=SUM(A1,A=SUM(1)".toList ∧
      classify "=if(A1<B1,1,2)".toList = classify "=IF(A1<B1,1,2)".toList ∧
      classify "=if(A1=B1,1,2)".toList ≠ classify "=IF(A1=B1,1,2)".toList ∧
      classify "=if(A1=if(B1,1,2)".toList = classify "=IF(A1=if(B1,1,2)".toList := by
  obtain ⟨quotes, sums⟩ := classify_any_case .sum "sUm".toList "A1,A=SUM(1".toList rfl
  obtain ⟨-, plain⟩ := classify_any_case .ifElse "if".toList "A1<B1,1,2".toList rfl
  obtain ⟨-, hidden⟩ := classify_any_case .ifElse "if".toList "A1=B1,1,2".toList rfl
  obtain ⟨-, again⟩ := classify_any_case .ifElse "if".toList "A1=if(B1,1,2".toList rfl
  refine ⟨(quotes "sUm".toList).trans (sums.mpr fun isIf => nomatch isIf), plain.mpr ?_, ?_,
    again.mpr fun _ _ _ _ => rfl⟩
  · intro _ _ _ present
    exact absurd present (by decide)
  · intro same
    have named := hidden.mp same rfl (by decide) (by decide) (by decide)
    exact nomatch named

/-- The case of the letters decides where a condition has an equals sign. -/
theorem case_of_conditional_matters :
    ¬∀ (function : Builtin) (word payload : Text), word.upper = function.name →
      classify (written word payload) = classify (written function.name payload) := by
  intro rule
  have same := rule .ifElse "if".toList "A1=B1,1,2".toList rfl
  have unknown : classify (written "if".toList "A1=B1,1,2".toList) =
      .error (.unknownFunction "B1,1,2)".toList) := rfl
  have known : classify (written Builtin.ifElse.name "A1=B1,1,2".toList) =
      .ok (.formula .ifElse (.list ["A1=B1".toList, "1".toList, "2".toList])) := rfl
  rw [unknown, known] at same
  cases same

end Content

end FlatSheet
