import FlatSheet.Proofs.Content.Classification
import FlatSheet.Proofs.Text.Cutting

/-! # How a cell is decided

First the quotes around a formula come off. What then starts with an equals sign is a formula, and
anything else is its leading integer or a fault. A formula is decided by its payload alone, which
reaches from the first opening to the last closing parenthesis. A payload with a colon is a range,
another one with a comma is a list, and one of two characters is a reference. Any other formula is
invalid, also when it has no payload. Only after that the name is looked up, so that a name which no
function has is a fault of a usable payload and of nothing else.
-/

namespace FlatSheet

/-- A cell without the quotes around a formula. -/
inductive Content.Unquotes : Text → Text → Prop
  | quoted (rest : Text) : Unquotes ('"' :: '=' :: rest ++ ['"']) ('=' :: rest)
  | plain {cell : Text} (other : ∀ rest, cell ≠ '"' :: '=' :: rest ++ ['"']) : Unquotes cell cell

/-- A cell as written holds a formula: without its quotes it starts with an equals sign. -/
structure Content.HoldsFormula (raw cell : Text) : Prop where
  unquotes : Unquotes raw cell
  starts : cell.head? = some '='

/-- The payload stands between the first opening and the last closing parenthesis of a cell. -/
def Content.Encloses (cell payload : Text) : Prop :=
  ∃ front behind, cell = front ++ '(' :: (payload ++ ')' :: behind) ∧ '(' ∉ front ∧ ')' ∉ behind

/-- A payload with one of the three shapes. -/
def Arguments.Usable (payload : Text) : Prop :=
  ':' ∈ payload ∨ ',' ∈ payload ∨ payload.length = 2

/-- The arguments that a payload selects. A range is cut at its first colon and a list at every
comma; blanks around the parts do not belong to them. -/
inductive Arguments.Selects : Text → Arguments → Prop
  | range {start : Text} (stop : Text) (first : ':' ∉ start) :
      Selects (start ++ ':' :: stop) (.range start.trim stop.trim)
  | list {parts : List Text} (several : 2 ≤ parts.length)
      (free : ∀ part ∈ parts, ':' ∉ part ∧ ',' ∉ part) :
      Selects (Text.join [','] parts) (.list (parts.map Text.trim))
  | single {reference : Text} (two : reference.length = 2) (noColon : ':' ∉ reference)
      (noComma : ',' ∉ reference) : Selects reference (.single reference)

/-- What a formula may come to, by its payload first and by its name after that. -/
inductive Content.Decided (cell : Text) : Except Fault Content → Prop
  | invalid (unusable : ∀ payload, Encloses cell payload → ¬Arguments.Usable payload) :
      Decided cell (.ok .invalid)
  | known {payload : Text} {arguments : Arguments} {function : Builtin}
      (encloses : Encloses cell payload) (selects : Arguments.Selects payload arguments)
      (named : Builtin.lookup (functionName cell) = .ok function) :
      Decided cell (.ok (.formula function arguments))
  | unknown {payload : Text} {arguments : Arguments} (encloses : Encloses cell payload)
      (selects : Arguments.Selects payload arguments)
      (unnamed : Builtin.lookup (functionName cell) = .error (.unknownFunction (functionName cell))) :
      Decided cell (.error (.unknownFunction (functionName cell)))

namespace Arguments

instance : DecidablePred Usable := fun payload =>
  inferInstanceAs (Decidable (':' ∈ payload ∨ ',' ∈ payload ∨ payload.length = 2))

theorem ofPayload?_eq_some_iff (payload : Text) (arguments : Arguments) :
    ofPayload? payload = some arguments ↔ Selects payload arguments := by
  constructor
  · intro spelled
    rw [ofPayload?] at spelled
    split at spelled
    · next colon =>
      rw [List.contains_iff_mem] at colon
      obtain ⟨start, stop, rfl, first⟩ := List.eq_append_cons_of_mem colon
      rw [Text.beforeFirst_append first, Text.afterFirst_append first] at spelled
      exact Option.some.inj spelled ▸ .range stop first
    · next noColon =>
      rw [List.contains_iff_mem] at noColon
      split at spelled
      · next comma =>
        rw [List.contains_iff_mem] at comma
        obtain rfl := Option.some.inj spelled
        have joined : Text.join [','] (payload.splitOn ',') = payload :=
          List.intercalate_splitOn ','
        have selected : Selects (Text.join [','] (payload.splitOn ',')) _ :=
          .list (Text.two_le_length_splitOn comma) fun part member =>
            have ⟨noComma, inside⟩ := Text.mem_splitOn member
            ⟨mt (@inside _) noColon, noComma⟩
        rwa [joined] at selected
      · next noComma =>
        rw [List.contains_iff_mem] at noComma
        split at spelled
        · next two => exact Option.some.inj spelled ▸ .single two noColon noComma
        · contradiction
  · intro selected
    cases selected with
    | range stop first =>
      rw [ofPayload?, if_pos (by simp), Text.beforeFirst_append first, Text.afterFirst_append first]
    | @list parts several free =>
      have noColon : ':' ∉ Text.join [','] parts :=
        Text.notMem_join (fun part member => (free part member).1) (by decide)
      have nonempty : parts ≠ [] := by
        rintro rfl
        contradiction
      have cut : (Text.join [','] parts).splitOn ',' = parts :=
        List.splitOn_intercalate ',' (fun part member => (free part member).2) nonempty
      rw [ofPayload?, if_neg (by simpa using noColon),
        if_pos (by simpa using Text.mem_join several), cut]
    | single two noColon noComma =>
      rw [ofPayload?, if_neg (by simpa using noColon), if_neg (by simpa using noComma), if_pos two]

theorem ofPayload?_eq_none_iff (payload : Text) : ofPayload? payload = none ↔ ¬Usable payload := by
  rw [ofPayload?, Usable]
  by_cases colon : ':' ∈ payload
  · simp [colon]
  · by_cases comma : ',' ∈ payload
    · simp [colon, comma]
    · simp [colon, comma]

theorem exists_selects_iff (payload : Text) :
    (∃ arguments, Selects payload arguments) ↔ Usable payload := by
  simp only [← ofPayload?_eq_some_iff, ← Option.isSome_iff_exists]
  rw [Option.isSome_iff_ne_none, ne_eq, ofPayload?_eq_none_iff, not_not]

theorem Selects.unique {payload : Text} {arguments others : Arguments}
    (selected : Selects payload arguments) (again : Selects payload others) :
    arguments = others := by
  rw [← ofPayload?_eq_some_iff] at selected again
  exact Option.some.inj (selected.symm.trans again)

end Arguments

namespace Content

private theorem unquoted_of_plain {cell : Text}
    (other : ∀ rest, cell ≠ '"' :: '=' :: rest ++ ['"']) :
    unquoted cell = cell := by
  unfold unquoted
  split
  · next rest =>
    rw [if_neg]
    intro ended
    obtain ⟨inner, rfl⟩ := List.getLast?_eq_some_iff.mp ended
    exact other inner rfl
  · rfl

theorem unquoted_eq_iff (raw cell : Text) : unquoted raw = cell ↔ Unquotes raw cell := by
  constructor
  · rintro rfl
    by_cases quoted : ∃ rest, raw = '"' :: '=' :: rest ++ ['"']
    · obtain ⟨rest, rfl⟩ := quoted
      rw [unquoted_quoted]
      exact .quoted rest
    · have other : ∀ rest, raw ≠ '"' :: '=' :: rest ++ ['"'] := fun rest same => quoted ⟨rest, same⟩
      rw [unquoted_of_plain other]
      exact .plain other
  · intro unquotes
    cases unquotes with
    | quoted rest => exact unquoted_quoted rest
    | plain other => exact unquoted_of_plain other

theorem payload?_eq_some_iff (cell payload : Text) :
    payload? cell = some payload ↔ Encloses cell payload := by
  rw [payload?, Text.beforeLast?_eq_some_iff]
  constructor
  · rintro ⟨behind, cut, last⟩
    have present : '(' ∈ cell := by
      by_contra absent
      simp [Text.afterFirst, List.dropWhile_eq_nil_iff.mpr (Text.ne_of_notMem absent)] at cut
    obtain ⟨front, rest, rfl, first⟩ := List.eq_append_cons_of_mem present
    rw [Text.afterFirst_append first] at cut
    exact ⟨front, behind, cut ▸ rfl, first, last⟩
  · rintro ⟨front, behind, rfl, first, last⟩
    exact ⟨behind, Text.afterFirst_append first _, last⟩

/-- A cell has a payload as soon as some closing parenthesis follows an opening one. -/
theorem exists_encloses_iff (cell : Text) :
    (∃ payload, Encloses cell payload) ↔ ['(', ')'].Sublist cell := by
  constructor
  · rintro ⟨payload, front, behind, rfl, -, -⟩
    simp
  · intro nested
    obtain ⟨before, after, rfl, opened, closed⟩ := List.cons_sublist_iff.mp nested
    obtain ⟨front, middle, rfl, first⟩ := List.eq_append_cons_of_mem opened
    have behindFirst : ')' ∈ middle ++ after :=
      List.mem_append_right middle (List.singleton_sublist.mp closed)
    obtain ⟨payload, behind, cut, last⟩ := Text.exists_last_of_mem behindFirst
    exact ⟨payload, front, behind, by simp [← cut], first, last⟩

theorem Encloses.unique {cell payload other : Text} (encloses : Encloses cell payload)
    (again : Encloses cell other) : payload = other := by
  rw [← payload?_eq_some_iff] at encloses again
  exact Option.some.inj (encloses.symm.trans again)

theorem ofFormula_of_unusable {cell : Text}
    (unusable : ∀ payload, Encloses cell payload → ¬Arguments.Usable payload) :
    ofFormula cell = .ok .invalid := by
  have refused : (payload? cell).bind Arguments.ofPayload? = none := by
    rw [Option.bind_eq_none_iff]
    intro payload enclosed
    rw [Arguments.ofPayload?_eq_none_iff]
    exact unusable payload ((payload?_eq_some_iff ..).mp enclosed)
  rw [ofFormula_eq, refused]

/-- A formula with a usable payload has the arguments that the payload selects. Only its function
may be missing. -/
theorem ofFormula_of_selects {cell payload : Text} {arguments : Arguments}
    (encloses : Encloses cell payload) (selects : Arguments.Selects payload arguments) :
    ofFormula cell = (Builtin.lookup (functionName cell)).map (formula · arguments) := by
  have spelled : (payload? cell).bind Arguments.ofPayload? = some arguments := by
    rw [(payload?_eq_some_iff ..).mpr encloses, Option.bind_some,
      (Arguments.ofPayload?_eq_some_iff ..).mpr selects]
  rw [ofFormula_eq, spelled]

private theorem decided_ofFormula (cell : Text) : Decided cell (ofFormula cell) := by
  by_cases usable : ∃ payload, Encloses cell payload ∧ Arguments.Usable payload
  · obtain ⟨payload, encloses, usable⟩ := usable
    obtain ⟨arguments, selects⟩ := (Arguments.exists_selects_iff payload).mpr usable
    rw [ofFormula_of_selects encloses selects]
    cases named : Builtin.lookup (functionName cell) with
    | ok function => exact .known encloses selects named
    | error fault =>
      obtain rfl := lookup_eq_error named
      exact .unknown encloses selects named
  · have unusable : ∀ payload, Encloses cell payload → ¬Arguments.Usable payload :=
      fun payload encloses shaped => usable ⟨payload, encloses, shaped⟩
    rw [ofFormula_of_unusable unusable]
    exact .invalid unusable

section

variable {raw cell payload : Text} {arguments : Arguments}

theorem classify_of_holdsFormula (formula : HoldsFormula raw cell) : classify raw = ofFormula cell := by
  obtain ⟨rest, rfl⟩ := List.head?_eq_some_iff.mp formula.starts
  rw [classify, (unquoted_eq_iff ..).mpr formula.unquotes]
  rfl

theorem classify_of_unquotes (unquotes : Unquotes raw cell) (other : cell.head? ≠ some '=') :
    classify raw = match Number.integerPrefix? cell with
      | some value => .ok (.literal value)
      | none => .error (.invalidContent raw) := by
  rw [classify, (unquoted_eq_iff ..).mpr unquotes]
  split
  · contradiction
  · rfl

theorem decided_classify (formula : HoldsFormula raw cell) : Decided cell (classify raw) :=
  classify_of_holdsFormula formula ▸ decided_ofFormula cell

/-- A formula is invalid exactly when it has no usable payload. -/
theorem classify_eq_invalid_iff (formula : HoldsFormula raw cell) :
    classify raw = .ok .invalid ↔
      ∀ payload, Encloses cell payload → ¬Arguments.Usable payload := by
  constructor
  · intro invalid
    have decided := decided_classify formula
    rw [invalid] at decided
    cases decided with
    | invalid unusable => exact unusable
  · intro unusable
    rw [classify_of_holdsFormula formula, ofFormula_of_unusable unusable]

private theorem classify_eq_invalid_iff_of_encloses (formula : HoldsFormula raw cell)
    (encloses : Encloses cell payload) :
    classify raw = .ok .invalid ↔ ¬Arguments.Usable payload := by
  rw [classify_eq_invalid_iff formula]
  exact ⟨fun unusable => unusable payload encloses,
    fun unusable other enclosed => encloses.unique enclosed ▸ unusable⟩

private theorem selects_of_classify {function : Builtin} (formula : HoldsFormula raw cell)
    (encloses : Encloses cell payload)
    (classified : classify raw = .ok (.formula function arguments)) :
    Arguments.Selects payload arguments := by
  have decided := decided_classify formula
  rw [classified] at decided
  cases decided with
  | known again selects named => exact again.unique encloses ▸ selects

end

/-- A cell without a usable payload, said by where its parentheses are. -/
theorem forall_unusable_iff (cell : Text) :
    (∀ payload, Encloses cell payload → ¬Arguments.Usable payload) ↔
      ¬['(', ')'].Sublist cell ∨
        ∃ payload, Encloses cell payload ∧ ':' ∉ payload ∧ ',' ∉ payload ∧ payload.length ≠ 2 := by
  simp only [Arguments.Usable, not_or]
  constructor
  · intro unusable
    by_cases nested : ['(', ')'].Sublist cell
    · obtain ⟨payload, encloses⟩ := (exists_encloses_iff cell).mpr nested
      exact .inr ⟨payload, encloses, unusable payload encloses⟩
    · exact .inl nested
  · rintro (unenclosed | ⟨payload, encloses, shapeless⟩) other enclosed
    · exact absurd ((exists_encloses_iff cell).mp ⟨other, enclosed⟩) unenclosed
    · exact encloses.unique enclosed ▸ shapeless

/-- Every cell is decided in one order. Without the quotes of a formula it either starts with an
equals sign or it is its leading integer or a fault that quotes it. A formula is invalid exactly when
no closing parenthesis follows an opening one, or the payload between the first and the last of them
has no shape. Otherwise it has the arguments that its payload selects, or its name is a fault. So no
other fault and no number comes of a formula, its name is no fault of one that is invalid, and two
formulas with the same payload have the same arguments. -/
theorem classify_decides_in_order :
    (∀ raw, ∃! cell, Unquotes raw cell) ∧
    (∀ raw cell, Unquotes raw cell → cell.head? ≠ some '=' →
      classify raw = match Number.integerPrefix? cell with
        | some value => .ok (.literal value)
        | none => .error (.invalidContent raw)) ∧
    (∀ raw cell, HoldsFormula raw cell →
      (classify raw = .ok .invalid ↔ ¬['(', ')'].Sublist cell ∨
        ∃ payload, Encloses cell payload ∧ ':' ∉ payload ∧ ',' ∉ payload ∧ payload.length ≠ 2) ∧
      (∀ payload, Encloses cell payload → Arguments.Usable payload →
        ∃ arguments, Arguments.Selects payload arguments ∧
          ((∃ function, classify raw = .ok (.formula function arguments)) ∨
            ∃ name, classify raw = .error (.unknownFunction name))) ∧
      (∀ name, classify raw = .error (.unknownFunction name) →
        ∃ payload, Encloses cell payload ∧ Arguments.Usable payload) ∧
      (∀ value, classify raw ≠ .ok (.literal value)) ∧
      ∀ text, classify raw ≠ .error (.invalidContent text)) ∧
    (∀ first firstCell second secondCell payload, HoldsFormula first firstCell →
      HoldsFormula second secondCell → Encloses firstCell payload → Encloses secondCell payload →
      (classify first = .ok .invalid ↔ classify second = .ok .invalid) ∧
      ∀ function other arguments others, classify first = .ok (.formula function arguments) →
        classify second = .ok (.formula other others) → arguments = others) := by
  refine ⟨fun raw => ?_, fun _ _ => classify_of_unquotes, fun raw cell formula => ?_, ?_⟩
  · refine ⟨unquoted raw, (unquoted_eq_iff raw _).mp rfl, fun cell unquotes => ?_⟩
    exact ((unquoted_eq_iff raw cell).mpr unquotes).symm
  · have decided := decided_classify formula
    refine ⟨?_, fun payload encloses usable => ?_, fun name unknown => ?_, fun value literal => ?_,
      fun text refused => ?_⟩
    · rw [classify_eq_invalid_iff formula, forall_unusable_iff]
    · generalize classify raw = outcome at decided
      cases decided with
      | invalid unusable => exact absurd usable (unusable payload encloses)
      | known again selects named => exact ⟨_, again.unique encloses ▸ selects, .inl ⟨_, rfl⟩⟩
      | unknown again selects unnamed => exact ⟨_, again.unique encloses ▸ selects, .inr ⟨_, rfl⟩⟩
    · rw [unknown] at decided
      cases decided with
      | unknown encloses selects unnamed =>
        exact ⟨_, encloses, (Arguments.exists_selects_iff _).mp ⟨_, selects⟩⟩
    · rw [literal] at decided
      cases decided
    · rw [refused] at decided
      cases decided
  · intro first firstCell second secondCell payload formula formula' encloses encloses'
    constructor
    · rw [classify_eq_invalid_iff_of_encloses formula encloses,
        classify_eq_invalid_iff_of_encloses formula' encloses']
    · intro function other arguments others classified classified'
      have selects := selects_of_classify formula encloses classified
      exact selects.unique (selects_of_classify formula' encloses' classified')

/-- A quoted formula whose payload has parentheses, a comma behind its colon and a letter outside of
ASCII, and another formula with the same payload. A name that no function has is a fault of a
payload of two characters, and none where the parentheses are the wrong way round. A number in quotes
is no number. -/
theorem classify_decides_in_order_parentheses :
    let payload := "é : )x(,1".toList
    let sum := "=sum(é : )x(,1) ".toList
    let max := "==MAX(é : )x(,1)".toList
    let range := Arguments.range "é".toList ")x(,1".toList
    HoldsFormula ('"' :: sum ++ ['"']) sum ∧ Encloses sum payload ∧ Arguments.Usable payload ∧
      (∃ function, classify ('"' :: sum ++ ['"']) = .ok (.formula function range)) ∧
      HoldsFormula max max ∧ Encloses max payload ∧
      (∀ function arguments, classify max = .ok (.formula function arguments) → arguments = range) ∧
      (∃ payload, Encloses "=no(éé)".toList payload ∧ Arguments.Usable payload) ∧
      classify "=no)é:é(".toList = .ok .invalid ∧
      classify "\"5\"".toList = .error (.invalidContent "\"5\"".toList) := by
  intro payload sum max range
  obtain ⟨-, number, formula, same⟩ := classify_decides_in_order
  have asWritten {cell : Text} (plain : unquoted cell = cell) (starts : cell.head? = some '=') :
      HoldsFormula cell cell := ⟨(unquoted_eq_iff ..).mp plain, starts⟩
  have quoted : HoldsFormula ('"' :: sum ++ ['"']) sum := ⟨.quoted _, rfl⟩
  have bare : HoldsFormula max max := asWritten rfl rfl
  have encloses : Encloses sum payload := (payload?_eq_some_iff ..).mp rfl
  have alsoEncloses : Encloses max payload := (payload?_eq_some_iff ..).mp rfl
  have usable : Arguments.Usable payload := by decide
  have selects : Arguments.Selects payload range := (Arguments.ofPayload?_eq_some_iff ..).mp rfl
  have known : ∃ function, classify ('"' :: sum ++ ['"']) = .ok (.formula function range) := by
    obtain ⟨arguments, selected, outcome⟩ := (formula _ _ quoted).2.1 payload encloses usable
    obtain rfl := selects.unique selected
    exact outcome.resolve_right fun ⟨name, unknown⟩ => nomatch unknown
  obtain ⟨function, knownFunction⟩ := known
  refine ⟨quoted, encloses, usable, ⟨function, knownFunction⟩, bare, alsoEncloses, ?_, ?_, ?_, ?_⟩
  · intro other arguments classified
    exact (same _ _ _ _ payload bare quoted alsoEncloses encloses).2 _ _ _ _ classified knownFunction
  · exact (formula _ _ (asWritten rfl rfl)).2.2.1 "no".toList rfl
  · exact (formula _ _ (asWritten rfl rfl)).1.mpr (.inl (by decide))
  · have outer : Unquotes "\"5\"".toList "\"5\"".toList := (unquoted_eq_iff ..).mp rfl
    exact number _ _ outer (by decide)

end Content

end FlatSheet
