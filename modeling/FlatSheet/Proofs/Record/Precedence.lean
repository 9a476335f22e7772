import FlatSheet.Proofs.Number.Grammar
import FlatSheet.Proofs.Number.Nonfinite
import FlatSheet.Proofs.Record.Operands
import FlatSheet.Proofs.Reference.Spelling

/-! # Which reading of an argument comes first

The second argument of a list is a number or a reference, and it is tried as a number first. Their
first characters keep the two apart: a letter starts a reference, and a sign, a digit or a point
starts a numeral. A letter that also stands in numerals or in the names of an infinity is a column
like any other, because it is never the first character of a numeral, and a name goes on with a
letter where a reference has a digit. So it does not matter which of the two is tried first.
-/

namespace FlatSheet

/-- A letter and digits are no numeral, whether or not the digits are a row. -/
theorem Reference.Shaped.ofText?_eq_none {text : Text} (shaped : Shaped text) :
    Decimal.ofText? text = none := by
  cases shaped with
  | mk alpha nonempty allDigits =>
    exact Decimal.ofText?_cons_eq_none (ne_sign_of_isAlpha alpha)
      (isDigit_eq_false_of_isAlpha alpha) (ne_point_of_isAlpha alpha) _

/-- No numeral has the shape of a reference, whether or not it is a finite number. -/
theorem Decimal.Spelling.not_shaped (spelling : Spelling) : ¬Reference.Shaped spelling.text := by
  intro shaped
  have unread := shaped.ofText?_eq_none
  rw [spelling.ofText?_text] at unread
  contradiction

private theorem Reference.Shaped.parse?_eq_none {text : Text} (shaped : Shaped text.trim) :
    Number.parse? text = none := by
  rw [Number.parse?, shaped.ofText?_eq_none]
  rfl

/-- A number resolves to nothing. -/
theorem Number.resolve_of_parse? {text : Text} {number : Float} (parsed : parse? text = some number) :
    Reference.resolve text = .error (.invalidReference text) := by
  refine (Reference.resolve_eq_error_iff ..).mpr ⟨fun reference resolved => ?_, rfl⟩
  rw [Reference.parse?_number_eq_none resolved] at parsed
  contradiction

private theorem Number.Nonfinite.resolve_eq {text : Text} (nonfinite : Nonfinite text) :
    Reference.resolve text = .error (.invalidReference text) :=
  (Reference.resolve_eq_error_iff ..).mpr ⟨nonfinite.resolve_ne_ok, rfl⟩

namespace Record

/-- The second argument of a list when it is tried as a reference first. -/
def referenceOrNumber (record : Record) (text : Text) : Except Fault Float :=
  match Reference.resolve text with
  | .ok _ => record.valueAt text
  | .error fault =>
    match Number.parse? text with
    | some number => .ok number
    | none => .error fault

/-- The operands with another reading of the second argument of a list. -/
def operandsReading (record : Record) (reading : Text → Except Fault Float) (function : Builtin) :
    Arguments → Except Fault (List Float)
  | .list [first, second] => do
    let first ← record.valueAt first
    let second ← reading second
    return [first, second]
  | arguments => record.operands function arguments

/-- The evaluation with another reading of the second argument of a list. -/
def evaluateReading (record : Record) (reading : Text → Except Fault Float) :
    Content → Except Fault Float
  | .literal value => .ok value
  | .formula function arguments =>
    match function.arity, arguments with
    | .conditional, .list items => conditional items
    | _, arguments => do
      let operands ← record.operandsReading reading function arguments
      function.apply operands record.size
  | .invalid => .ok 0

private theorem referenceOrNumber_eq_operand (record : Record) (text : Text) :
    record.referenceOrNumber text = record.operand text := by
  cases resolved : Reference.resolve text with
  | ok reference => rw [referenceOrNumber, resolved, operand_of_resolve record resolved]
  | error fault =>
    rw [referenceOrNumber, resolved, operand]
    cases Number.parse? text with
    | some number => rfl
    | none =>
      rw [valueAt, resolved]
      rfl

private theorem operandsReading_operand (record : Record) (function : Builtin)
    (arguments : Arguments) :
    record.operandsReading record.operand function arguments = record.operands function arguments := by
  fun_cases record.operandsReading record.operand function arguments with
  | case1 first second => rfl
  | case2 arguments other => rfl

private theorem evaluateReading_operand (record : Record) (content : Content) :
    record.evaluateReading record.operand content = record.evaluate content := by
  cases content using Content.evaluationCases with
  | literal value => rfl
  | conditional items => rfl
  | applied function arguments unconditional =>
    rw [evaluate_formula record function arguments unconditional, ← operandsReading_operand]
    exact Arguments.match_eq_of_unconditional conditional _ unconditional
  | invalid => rfl

/-- No text is both a number and a reference. A letter and digits are no numeral, whichever letter it
is and even if the digits are no row, and a name of an infinity or a numeral that is too large is
neither a number nor a reference. So a reference in the second place of a list is never taken for a
number, and every formula has the same value or fault when the reference is tried first. -/
theorem numbers_and_references_apart :
    (∀ text number, Number.parse? text = some number →
      Reference.resolve text = .error (.invalidReference text)) ∧
    (∀ text reference, Reference.resolve text = .ok reference → Number.parse? text = none) ∧
    (∀ text : Text, Reference.Shaped text.trim →
      Number.parse? text = none ∧ ∀ numeral : Decimal.Spelling, text.trim ≠ numeral.text) ∧
    (∀ text, Number.Nonfinite text → Number.parse? text = none ∧
      Reference.resolve text = .error (.invalidReference text)) ∧
    (∀ (record : Record) text reference, Reference.resolve text = .ok reference →
      record.operand text = record.valueAt text) ∧
    ∀ (record : Record) content,
      record.evaluateReading record.referenceOrNumber content = record.evaluate content := by
  refine ⟨fun _ _ => Number.resolve_of_parse?, fun _ _ => Reference.parse?_number_eq_none, ?_,
    fun _ nonfinite => ⟨nonfinite.parse?_eq_none, nonfinite.resolve_eq⟩,
    fun record _ _ => operand_of_resolve record, ?_⟩
  · intro text shaped
    refine ⟨shaped.parse?_eq_none, fun numeral same => ?_⟩
    rw [same] at shaped
    exact numeral.not_shaped shaped
  · intro record content
    have readings : record.referenceOrNumber = record.operand :=
      funext record.referenceOrNumber_eq_operand
    rw [readings, evaluateReading_operand]

/-- The letter of an exponent is a column before the digits and none behind one. The letters that the
names of an infinity and of what is not a number start with are columns as well, here without a row
or beyond the last one, and the names themselves are nothing. -/
theorem numbers_and_references_apart_letters :
    let record := ofCells ["7".toList, "x".toList, "x".toList, "x".toList, " 4.0".toList]
    let content := Content.formula .mod (.list ["a1".toList, "E5".toList])
    Number.parse? "5E1".toList = some 50 ∧
      Reference.resolve "5E1".toList = .error (.invalidReference "5E1".toList) ∧
      Reference.resolve "\te5 ".toList = .ok ⟨4, 5⟩ ∧ Number.parse? "\te5 ".toList = none ∧
      Number.parse? "I0".toList = none ∧ Number.parse? "n18446744073709551616".toList = none ∧
      Reference.resolve "+iNf".toList = .error (.invalidReference "+iNf".toList) ∧
      Reference.resolve "nan".toList = .error (.invalidReference "nan".toList) ∧
      record.operand "\te5 ".toList = record.valueAt "\te5 ".toList ∧
      record.evaluate content = .ok 3 ∧
      record.evaluateReading record.referenceOrNumber content = .ok 3 := by
  intro record content
  obtain ⟨numbers, references, shapes, names, shadowed, orders⟩ := numbers_and_references_apart
  have number : Number.parse? "5E1".toList = some 50 := by decide +kernel
  have reference : Reference.resolve "\te5 ".toList = .ok ⟨4, 5⟩ := rfl
  have value : record.evaluate content = .ok 3 := by decide +kernel
  have infinity : Text.trim "+iNf".toList = ['+'] ++ "iNf".toList := rfl
  have unsigned : Text.trim "nan".toList = [] ++ "nan".toList := rfl
  refine ⟨number, numbers _ _ number, reference, references _ _ reference, ?_, ?_, ?_, ?_,
    shadowed record _ _ reference, value, (orders record content).trans value⟩
  · exact (shapes "I0".toList (.mk rfl (by decide) (by decide))).1
  · exact (shapes "n18446744073709551616".toList (.mk rfl (by decide) (by decide))).1
  · exact (names _ (.named (by decide) (by decide) infinity)).2
  · exact (names _ (.named (by decide) (by decide) unsigned)).2

end Record

end FlatSheet
