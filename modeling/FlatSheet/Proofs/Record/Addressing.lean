import FlatSheet.Proofs.Condition.Parsing
import FlatSheet.Proofs.Record.Operands

/-! # Other names of the same columns

A formula may name a column by any reference to it. Another one leads to the same cell, so it
changes no value. What it does change is the text of faults, and in a range the order of the two
rows, which has to be kept.
-/

namespace FlatSheet

/-- A fault without what depends on how references are written: neither the texts of references,
conditions and branches nor the row of a reference that is out of bounds. -/
def Fault.unspelled : Fault → Fault
  | .invalidReference _ => .invalidReference []
  | .reversedRange _ _ => .reversedRange [] []
  | .malformedCondition _ => .malformedCondition []
  | .branchNotInteger _ => .branchNotInteger []
  | .outOfBounds reference size => .outOfBounds { reference with row := 0 } size
  | fault => fault

/-- Two outcomes with related values, or with faults that differ only in how references are
written. -/
inductive Alike {α β : Type} (Related : α → β → Prop) : Except Fault α → Except Fault β → Prop
  | ok {value : α} {other : β} (related : Related value other) :
      Alike Related (.ok value) (.ok other)
  | error {fault other : Fault} (same : fault.unspelled = other.unspelled) :
      Alike Related (.error fault) (.error other)

/-- A text that stays, or another name of the same column in its place. -/
def Reference.Renamed (text other : Text) : Prop := text = other ∨ Reference.SameColumn text other

/-- The ends of two ranges are in the same order of rows. -/
def Reference.SameOrder (start stop otherStart otherStop : Text) : Prop :=
  ∀ first last otherFirst otherLast, Reference.resolve start = .ok first →
    Reference.resolve stop = .ok last → Reference.resolve otherStart = .ok otherFirst →
    Reference.resolve otherStop = .ok otherLast → first.column ≤ last.column →
    (first.row ≤ last.row ↔ otherFirst.row ≤ otherLast.row)

open Reference in
/-- The content after some of the references in it were replaced by other names of the same
columns. -/
inductive Content.Renamed : Content → Content → Prop
  | same (content : Content) : Renamed content content
  | range {function : Builtin} {start stop otherStart otherStop : Text}
      (atStart : Reference.Renamed start otherStart) (atStop : Reference.Renamed stop otherStop)
      (rows : SameOrder start stop otherStart otherStop) :
      Renamed (.formula function (.range start stop)) (.formula function (.range otherStart otherStop))
  | list {function : Builtin} {items others : List Text}
      (renamed : List.Forall₂ Reference.Renamed items others) :
      Renamed (.formula function (.list items)) (.formula function (.list others))
  | condition {left operator right otherLeft otherRight : Text} {branches others : List Text}
      (leftShaped : Reference.Shaped left.trim) (isOperator : Condition.Operator operator)
      (rightShaped : Reference.Shaped right.trim) (atLeft : Reference.Renamed left otherLeft)
      (atRight : Reference.Renamed right otherRight)
      (renamed : List.Forall₂ Reference.Renamed branches others) :
      Renamed (.formula .ifElse (.list ((left ++ operator ++ right) :: branches)))
        (.formula .ifElse (.list ((otherLeft ++ operator ++ otherRight) :: others)))
  | single {function : Builtin} {text other : Text} (renamed : Reference.Renamed text other) :
      Renamed (.formula function (.single text)) (.formula function (.single other))

theorem Alike.bind {α β γ δ : Type} {Before : α → β → Prop} {After : γ → δ → Prop}
    {first : Except Fault α} {second : Except Fault β} (alike : Alike Before first second)
    {next : α → Except Fault γ} {other : β → Except Fault δ}
    (onward : ∀ {value changed}, Before value changed → Alike After (next value) (other changed)) :
    Alike After (first >>= next) (second >>= other) := by
  cases alike with
  | ok related => exact onward related
  | error same => exact .error same

theorem Alike.refl {α : Type} (outcome : Except Fault α) : Alike Eq outcome outcome := by
  cases outcome with
  | ok value => exact .ok rfl
  | error fault => exact .error rfl

private theorem Alike.mapError_eq {α : Type} {first second : Except Fault α}
    (alike : Alike Eq first second) :
    first.mapError Fault.unspelled = second.mapError Fault.unspelled := by
  cases alike with
  | ok related => exact congrArg Except.ok related
  | error same => exact congrArg Except.error same

namespace Reference

theorem resolve_alike {text other : Text} (renamed : Renamed text other) :
    Alike (fun first second => resolve text = .ok first ∧ resolve other = .ok second ∧
      first.column = second.column) (resolve text) (resolve other) := by
  rcases renamed with rfl | ⟨first, second, spelled, respelled, sameColumn⟩
  · cases resolve text with
    | ok reference => exact .ok ⟨rfl, rfl, rfl⟩
    | error fault => exact .error rfl
  · rw [← resolve_eq_ok_iff_spelling] at spelled respelled
    rw [spelled, respelled]
    exact .ok ⟨rfl, rfl, sameColumn⟩

private theorem Renamed.trim {text other : Text} (renamed : Renamed text other) :
    Renamed text.trim other.trim := by
  rcases renamed with rfl | ⟨first, second, spelled, respelled, sameColumn⟩
  · exact .inl rfl
  · refine .inr ⟨first, second, ?_, ?_, sameColumn⟩
    · rwa [← resolve_eq_ok_iff_spelling, resolve_trim_eq_ok_iff, resolve_eq_ok_iff_spelling]
    · rwa [← resolve_eq_ok_iff_spelling, resolve_trim_eq_ok_iff, resolve_eq_ok_iff_spelling]

private theorem Renamed.shaped {text other : Text} (renamed : Renamed text other)
    (shaped : Shaped text.trim) : Shaped other.trim := by
  rcases renamed with rfl | ⟨first, second, spelled, respelled, sameColumn⟩
  · exact shaped
  · exact respelled.shaped_trim

end Reference

namespace Condition

open Reference

/-- Replacing one reference by another is no condition in either case. -/
theorem parse_alike_of_renamed {text other : Text} (renamed : Reference.Renamed text other) :
    Alike (fun first second : Condition => first.holds = second.holds) (parse text)
      (parse other) := by
  rcases renamed with rfl | ⟨first, second, spelled, respelled, sameColumn⟩
  · cases parse text with
    | ok condition => exact .ok rfl
    | error fault => exact .error rfl
  · rw [parse, parse, parts?_of_shaped spelled.shaped_trim, parts?_of_shaped respelled.shaped_trim]
    exact .error rfl

/-- A condition compares columns, so it holds for all names of these or for none. -/
theorem parse_append_alike {left operator right otherLeft otherRight : Text}
    (leftShaped : Reference.Shaped left.trim) (isOperator : Operator operator)
    (rightShaped : Reference.Shaped right.trim) (atLeft : Reference.Renamed left otherLeft)
    (atRight : Reference.Renamed right otherRight) :
    Alike (fun first second : Condition => first.holds = second.holds)
      (parse (left ++ operator ++ right)) (parse (otherLeft ++ operator ++ otherRight)) := by
  rw [parse_append leftShaped isOperator rightShaped,
    parse_append (atLeft.shaped leftShaped) isOperator (atRight.shaped rightShaped)]
  cases Comparison.ofText? operator with
  | none => exact .error rfl
  | some comparison =>
    refine (resolve_alike atLeft.trim).bind ?_
    rintro first second ⟨-, -, sameLeft⟩
    refine (resolve_alike atRight.trim).bind ?_
    rintro last otherLast ⟨-, -, sameRight⟩
    exact .ok (by rw [holds, holds, sameLeft, sameRight])

end Condition

namespace Record

open Reference

theorem valueAt_alike (record : Record) {text other : Text} (renamed : Reference.Renamed text other) :
    Alike Eq (record.valueAt text) (record.valueAt other) := by
  refine (resolve_alike renamed).bind ?_
  rintro first second ⟨-, -, sameColumn⟩
  rw [sameColumn]
  cases record.cell? second.column with
  | some cell => exact .refl _
  | none => exact .error (by simp [Fault.unspelled, sameColumn])

private theorem operand_alike (record : Record) {text other : Text}
    (renamed : Reference.Renamed text other) :
    Alike Eq (record.operand text) (record.operand other) := by
  rcases renamed with rfl | sameColumn
  · exact .refl _
  · have ⟨first, second, spelled, respelled, _⟩ := sameColumn
    rw [operand_of_resolve record ((resolve_eq_ok_iff_spelling text first).mpr spelled),
      operand_of_resolve record ((resolve_eq_ok_iff_spelling other second).mpr respelled)]
    exact valueAt_alike record (.inr sameColumn)

private theorem rangeValues_alike (record : Record) {start stop otherStart otherStop : Text}
    (atStart : Reference.Renamed start otherStart) (atStop : Reference.Renamed stop otherStop)
    (rows : SameOrder start stop otherStart otherStop) :
    Alike Eq (record.rangeValues start stop) (record.rangeValues otherStart otherStop) := by
  rw [rangeValues, rangeValues]
  refine (resolve_alike atStart).bind ?_
  rintro first otherFirst ⟨low, otherLow, sameFirst⟩
  refine (resolve_alike atStop).bind ?_
  rintro last otherLast ⟨high, otherHigh, sameLast⟩
  have reversed : (last.column < first.column ∨ last.row < first.row) ↔
      (otherLast.column < otherFirst.column ∨ otherLast.row < otherFirst.row) := by
    have order := rows first last otherFirst otherLast low high otherLow otherHigh
    omega
  simp only [Bool.or_eq_true, decide_eq_true_eq, reversed]
  split
  · exact .error rfl
  · rw [sameFirst, sameLast]
    cases record.slice? otherFirst.column otherLast.column with
    | some cells => exact .refl _
    | none => exact .error (by simp [Fault.unspelled, sameLast])

private theorem operands_list_alike (record : Record) (function : Builtin)
    {items others : List Text}
    (renamed : List.Forall₂ Reference.Renamed items others) :
    Alike Eq (record.operands function (.list items)) (record.operands function (.list others)) := by
  rcases renamed with _ | ⟨atFirst, _ | ⟨atSecond, _ | ⟨atThird, more⟩⟩⟩
  · exact .refl _
  · exact .refl _
  · refine (valueAt_alike record atFirst).bind fun {left _} same => ?_
    refine (operand_alike record atSecond).bind fun {right _} sameRight => ?_
    exact .ok (by rw [same, sameRight])
  · exact .error (by simp [Fault.unspelled, more.length_eq])

private theorem choose_renamed (holds : Bool) {whenTrue whenFalse otherTrue otherFalse : Text}
    (atTrue : Reference.Renamed whenTrue otherTrue)
    (atFalse : Reference.Renamed whenFalse otherFalse) :
    Reference.Renamed (Builtin.choose holds whenTrue whenFalse)
      (Builtin.choose holds otherTrue otherFalse) := by
  cases holds with
  | true => exact atTrue
  | false => exact atFalse

private theorem conditional_alike {condition other : Text} {branches others : List Text}
    (conditions : Alike (fun first second : Condition => first.holds = second.holds)
      (Condition.parse condition) (Condition.parse other))
    (renamed : List.Forall₂ Reference.Renamed branches others) :
    Alike Eq (conditional (condition :: branches)) (conditional (other :: others)) := by
  rcases renamed with _ | ⟨atTrue, _ | ⟨atFalse, _ | ⟨atFourth, more⟩⟩⟩
  · exact .refl _
  · exact .refl _
  · refine conditions.bind fun {first second} sameBranch => ?_
    rw [sameBranch]
    rcases choose_renamed second.holds atTrue atFalse with same | ⟨left, right, spelled, respelled, -⟩
    · simp only [same]
      exact .refl _
    · rw [← resolve_eq_ok_iff_spelling] at spelled respelled
      simp only [integerPrefix?_eq_none spelled, integerPrefix?_eq_none respelled]
      exact .error rfl
  · exact .error (by simp [Fault.unspelled, more.length_eq])

private theorem evaluate_alike (record : Record) {content other : Content}
    (renamed : content.Renamed other) :
    Alike Eq (record.evaluate content) (record.evaluate other) := by
  have applied (function : Builtin) {arguments others : Arguments}
      (unconditional : function = .ifElse → ∀ items, arguments ≠ .list items ∧ others ≠ .list items)
      (alike : Alike Eq (record.operands function arguments) (record.operands function others)) :
      Alike Eq (record.evaluate (.formula function arguments))
        (record.evaluate (.formula function others)) := by
    rw [evaluate_formula record function arguments fun same items => (unconditional same items).1,
      evaluate_formula record function others fun same items => (unconditional same items).2]
    exact alike.bind fun same => by rw [same]; exact .refl _
  cases renamed with
  | same => exact .refl _
  | range atStart atStop rows =>
    exact applied _ (by simp) (rangeValues_alike record atStart atStop rows)
  | @list function items others renamed =>
    by_cases conditional : function = .ifElse
    · subst conditional
      cases renamed with
      | nil => exact .refl _
      | cons condition branches =>
        exact conditional_alike (Condition.parse_alike_of_renamed condition) branches
    · exact applied _ (absurd · conditional) (operands_list_alike record function renamed)
  | condition leftShaped isOperator rightShaped atLeft atRight branches =>
    exact conditional_alike (Condition.parse_append_alike leftShaped isOperator rightShaped atLeft
      atRight) branches
  | single renamed =>
    exact applied _ (by simp) ((valueAt_alike record renamed).bind fun same => by
      rw [same]; exact .refl _)

/-- A formula may name a column by any reference to it, and the spellings of references are all
texts that resolve. Other names, in a range without another order of the rows, keep the value, or
else the fault but for the texts and the row in it. A condition compares the columns that its
references name and nothing else. -/
theorem evaluate_renamed :
    (∀ (record : Record) (content other : Content), content.Renamed other →
      (record.evaluate content).mapError Fault.unspelled =
        (record.evaluate other).mapError Fault.unspelled) ∧
    (∀ text reference, Reference.resolve text = .ok reference ↔
      Reference.Spelling reference text) ∧
    (∀ (first second : Reference) (left right : Text) (comparison : Comparison),
      Reference.Spelling first left → Reference.Spelling second right → ∃ condition,
        Condition.parse (left ++ comparison.text ++ right) = .ok condition ∧
        condition.holds = comparison.holds first.column second.column) := by
  refine ⟨?_, resolve_eq_ok_iff_spelling, ?_⟩
  · intro record content other renamed
    exact (evaluate_alike record renamed).mapError_eq
  · intro first second left right comparison atLeft atRight
    exact ⟨_, Condition.parse_spelling atLeft comparison atRight, rfl⟩

/-- A range past the end of a record names that end by another row, and the fault tells the row. A
condition between the same two columns holds in both spellings. -/
theorem evaluate_renamed_bounds :
    let record := ofCells ["4".toList, "6".toList]
    let range := Content.formula .sum (.range "A7".toList "Z9".toList)
    let other := Content.formula .sum (.range "\ta1".toList "z010 ".toList)
    record.evaluate range = .error (.outOfBounds ⟨25, 9⟩ 2) ∧
    record.evaluate other = .error (.outOfBounds ⟨25, 10⟩ 2) ∧
    (record.evaluate range).mapError Fault.unspelled =
      (record.evaluate other).mapError Fault.unspelled ∧
    (∃ condition, Condition.parse "\ta1<z010 ".toList = .ok condition ∧ condition.holds = true) := by
  intro record range other
  obtain ⟨same, resolves, conditions⟩ := evaluate_renamed
  have atA : Spelling ⟨0, 7⟩ "A7".toList := (resolves _ _).mp rfl
  have atZ : Spelling ⟨25, 9⟩ "Z9".toList := (resolves _ _).mp rfl
  have otherA : Spelling ⟨0, 1⟩ "\ta1".toList := (resolves _ _).mp rfl
  have otherZ : Spelling ⟨25, 10⟩ "z010 ".toList := (resolves _ _).mp rfl
  refine ⟨rfl, rfl, same record range other (.range ?_ ?_ ?_), ?_⟩
  · exact .inr ⟨_, _, atA, otherA, rfl⟩
  · exact .inr ⟨_, _, atZ, otherZ, rfl⟩
  · intro first last otherFirst otherLast low high otherLow otherHigh _
    obtain rfl := Except.ok.inj (((resolves _ _).mpr atA).symm.trans low)
    obtain rfl := Except.ok.inj (((resolves _ _).mpr atZ).symm.trans high)
    obtain rfl := Except.ok.inj (((resolves _ _).mpr otherA).symm.trans otherLow)
    obtain rfl := Except.ok.inj (((resolves _ _).mpr otherZ).symm.trans otherHigh)
    decide
  · exact conditions ⟨0, 1⟩ ⟨25, 10⟩ _ _ .less otherA otherZ

end Record

end FlatSheet
