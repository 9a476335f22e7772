import FlatSheet.Proofs.Content.Naming

/-! # Formulas as they are written

Classifying gives contents of a certain shape: literals are finite, and arguments do not have the
marks by which their payload would be cut elsewhere. Arguments of that shape are found again in the
formula that is written with them. Its payload reaches from the first opening to the last closing
parenthesis, so parentheses in the arguments do no harm, and neither do quotes. Only an equals sign
in the arguments can hide the name of the function, because the name follows the last one. The
conditional function is exempt, since its name is not looked for.
-/

namespace FlatSheet

namespace Arguments

/-- Every argument as it is written. -/
def texts : Arguments → List Text
  | .range start stop => [start, stop]
  | .list items => items
  | .single reference => [reference]

/-- The shape of the arguments that a payload spells. -/
def Shaped : Arguments → Prop
  | .range start stop => start.Trimmed ∧ stop.Trimmed ∧ ':' ∉ start
  | .list items => 2 ≤ items.length ∧ ∀ item ∈ items, item.Trimmed ∧ ',' ∉ item ∧ ':' ∉ item
  | .single reference => reference.length = 2 ∧ ':' ∉ reference ∧ ',' ∉ reference

instance : DecidablePred Shaped
  | .range start stop =>
    inferInstanceAs (Decidable (start.Trimmed ∧ stop.Trimmed ∧ ':' ∉ start))
  | .list items =>
    inferInstanceAs (Decidable (2 ≤ items.length ∧
      ∀ item ∈ items, item.Trimmed ∧ ',' ∉ item ∧ ':' ∉ item))
  | .single reference =>
    inferInstanceAs (Decidable (reference.length = 2 ∧ ':' ∉ reference ∧ ',' ∉ reference))

private theorem Selects.shaped {payload : Text} {arguments : Arguments}
    (selects : Selects payload arguments) : arguments.Shaped := by
  cases selects with
  | range stop first =>
    exact ⟨Text.trimmed_trim _, Text.trimmed_trim _, fun member => first (Text.trim_subset _ member)⟩
  | list several free =>
    refine ⟨by simpa using several, ?_⟩
    rw [List.forall_mem_map]
    intro part member
    obtain ⟨noColon, noComma⟩ := free part member
    have within := Text.trim_subset part
    exact ⟨Text.trimmed_trim part, mt (@within _) noComma, mt (@within _) noColon⟩
  | single two noColon noComma => exact ⟨two, noColon, noComma⟩

/-- Arguments that need no trimming are selected by the payload that spells them. -/
theorem Shaped.selects {arguments : Arguments} (shaped : arguments.Shaped) :
    Selects arguments.payload arguments := by
  cases arguments with
  | range start stop =>
    obtain ⟨trimmedStart, trimmedStop, noColon⟩ := shaped
    have selects : Selects (start ++ ':' :: stop) (.range start.trim stop.trim) :=
      .range stop noColon
    rwa [Text.trim_eq_self trimmedStart, Text.trim_eq_self trimmedStop] at selects
  | list items =>
    obtain ⟨several, shapes⟩ := shaped
    have selects : Selects (Text.join [','] items) (.list (items.map Text.trim)) :=
      .list several fun item member => (shapes item member).2.symm
    have trims : items.map Text.trim = items := by
      rw [List.map_congr_left fun item member => Text.trim_eq_self (shapes item member).1]
      exact List.map_id' items
    rwa [trims] at selects
  | single reference =>
    obtain ⟨two, noColon, noComma⟩ := shaped
    exact .single two noColon noComma

private theorem ofPayload?_payload {arguments : Arguments} (shaped : arguments.Shaped) :
    ofPayload? arguments.payload = some arguments :=
  (ofPayload?_eq_some_iff ..).mpr shaped.selects

/-- A payload has no characters but those of the arguments and the two marks. -/
theorem notMem_payload {arguments : Arguments} {char : Char}
    (absent : ∀ text ∈ arguments.texts, char ∉ text) (noColon : char ≠ ':') (noComma : char ≠ ',') :
    char ∉ arguments.payload := by
  cases arguments with
  | range start stop =>
    obtain ⟨inStart, inStop⟩ : char ∉ start ∧ char ∉ stop := by simpa [texts] using absent
    simp [payload, inStart, inStop, noColon]
  | list items => exact Text.notMem_join absent noComma
  | single reference => exact absent reference (List.mem_singleton_self reference)

end Arguments

namespace Builtin

private theorem lookup_name (function : Builtin) : lookup function.name = .ok function := by
  rw [lookup, named?_name]

end Builtin

namespace Content

/-- The shape of the contents that cells have. -/
def Shaped : Content → Prop
  | .literal value => Binary64.isFinite value = true
  | .formula _ arguments => arguments.Shaped
  | .invalid => True

private theorem shaped_of_classify {cell : Text} {content : Content}
    (classified : classify cell = .ok content) : content.Shaped := by
  cases content with
  | literal value => exact isFinite_of_classify classified
  | formula function arguments =>
    rw [classify] at classified
    split at classified
    · rcases (ofFormula_eq_ok_iff _ _).mp classified with
        ⟨-, other⟩ | ⟨spelled, named, payload, -, same⟩
      · contradiction
      · obtain ⟨-, rfl⟩ := Content.formula.inj same
        obtain ⟨text, -, spelled⟩ := Option.bind_eq_some_iff.mp payload
        exact ((Arguments.ofPayload?_eq_some_iff ..).mp spelled).shaped
    · split at classified <;> cases classified
  | invalid => trivial

private theorem formulaText_eq (function : Builtin) (arguments : Arguments) :
    formulaText function arguments =
      '=' :: (function.name ++ '(' :: (arguments.payload ++ [')'])) := by
  simp [formulaText]

private theorem payload?_formulaText (function : Builtin) (arguments : Arguments) :
    payload? (formulaText function arguments) = some arguments.payload :=
  (payload?_eq_some_iff ..).mpr (encloses_written function.name_plain.2.1 arguments.payload)

private theorem functionName_formulaText {function : Builtin} {arguments : Arguments}
    (named : function = .ifElse ∨ '=' ∉ arguments.payload) :
    functionName (formulaText function arguments) = function.name := by
  by_cases conditional : ['=', 'I', 'F'] <+: formulaText function arguments
  · obtain ⟨rfl, -⟩ := eq_of_conditional_written function.upper_name conditional
    rfl
  · have absent : '=' ∉ arguments.payload := by
      refine named.resolve_left ?_
      rintro rfl
      exact conditional ⟨'(' :: arguments.payload ++ [')'], rfl⟩
    have names := namesLast_written function.upper_name absent
    rw [← function.name_plain.2.2]
    exact functionName_of_namesLast rfl conditional names

/-- Cells have contents of a certain shape, and a formula that is written with arguments of that
shape is classified as such, in quotes or not. Its arguments may have any characters inside, only an
equals sign has to stay away from a name that is looked for. -/
theorem classify_formulaText :
    (∀ cell content, classify cell = .ok content → content.Shaped) ∧
    ∀ (function : Builtin) (arguments : Arguments), arguments.Shaped →
      (function = .ifElse ∨ ∀ text ∈ arguments.texts, '=' ∉ text) →
      classify (formulaText function arguments) = .ok (.formula function arguments) ∧
      classify ('"' :: formulaText function arguments ++ ['"']) =
        .ok (.formula function arguments) := by
  refine ⟨fun _ _ => shaped_of_classify, fun function arguments shaped named => ?_⟩
  have noEquals : function = .ifElse ∨ '=' ∉ arguments.payload :=
    named.imp_right fun absent => Arguments.notMem_payload absent (by decide) (by decide)
  have formula : ofFormula (formulaText function arguments) = .ok (.formula function arguments) := by
    rw [ofFormula_eq_ok_iff]
    refine .inr ⟨arguments, function, ?_, ?_, rfl⟩
    · rw [payload?_formulaText, Option.bind_some, Arguments.ofPayload?_payload shaped]
    · rw [functionName_formulaText noEquals, Builtin.lookup_name]
  constructor
  · exact formula
  · rw [formulaText_eq] at formula ⊢
    rw [classify, unquoted_quoted]
    exact formula

/-- A range with parentheses, a quote, a comma and a second colon inside, as it is read and as it is
printed, and a conditional formula with equals signs. -/
theorem classify_formulaText_punctuation :
    let range := Arguments.range "A(1,)".toList "\"B:1(".toList
    let list := Arguments.list ["A1==B1".toList, ")1(".toList, "=2\"".toList]
    classify "=Sum( A(1,) : \"B:1( )".toList = .ok (.formula .sum range) ∧
      range.Shaped ∧ classify "=SUM(A(1,):\"B:1()".toList = .ok (.formula .sum range) ∧
      list.Shaped ∧
      classify "\"=IF(A1==B1,)1(,=2\")\"".toList = .ok (.formula .ifElse list) := by
  intro range list
  obtain ⟨shaped, printed⟩ := classify_formulaText
  have read : classify "=Sum( A(1,) : \"B:1( )".toList = .ok (.formula .sum range) := rfl
  have rangeShaped : range.Shaped := shaped _ _ read
  have listShaped : list.Shaped := by decide +kernel
  have noEquals : ∀ text ∈ range.texts, '=' ∉ text := by decide +kernel
  exact ⟨read, rangeShaped, (printed .sum range rangeShaped (.inr noEquals)).1, listShaped,
    (printed .ifElse list listShaped (.inl rfl)).2⟩

end Content

end FlatSheet
