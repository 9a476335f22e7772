import FlatSheet.Content
import FlatSheet.Proofs.Number.Reading

/-! # What classifying a cell gives

A formula whose payload has no shape is invalid, and the only fault of another one is a name that
no function has. A cell that is no formula is its leading integer or a fault that quotes it.
-/

namespace FlatSheet.Content

theorem unquoted_quoted (formula : Text) :
    unquoted ('"' :: '=' :: formula ++ ['"']) = '=' :: formula := by
  simp [unquoted]

theorem ofFormula_eq (cell : Text) :
    ofFormula cell = match (payload? cell).bind Arguments.ofPayload? with
      | none => .ok .invalid
      | some arguments => (Builtin.lookup (functionName cell)).map (formula · arguments) := by
  rw [ofFormula]
  cases (payload? cell).bind Arguments.ofPayload? with
  | none => rfl
  | some arguments => cases Builtin.lookup (functionName cell) <;> rfl

/-- A formula is invalid, or its function is the one that it names. -/
theorem ofFormula_eq_ok_iff (cell : Text) (content : Content) :
    ofFormula cell = .ok content ↔
      (payload? cell).bind Arguments.ofPayload? = none ∧ content = .invalid ∨
      ∃ arguments function, (payload? cell).bind Arguments.ofPayload? = some arguments ∧
        Builtin.lookup (functionName cell) = .ok function ∧ content = .formula function arguments := by
  rw [ofFormula_eq]
  cases (payload? cell).bind Arguments.ofPayload? with
  | none => simp [eq_comm]
  | some arguments =>
    cases Builtin.lookup (functionName cell) <;> simp [Except.map, eq_comm (a := content)]

theorem lookup_eq_error {name : Text} {fault : Fault} (failed : Builtin.lookup name = .error fault) :
    fault = .unknownFunction name := by
  rw [Builtin.lookup] at failed
  split at failed
  · contradiction
  · exact (Except.error.inj failed).symm

private theorem ofFormula_eq_error {cell : Text} {fault : Fault}
    (failed : ofFormula cell = .error fault) :
    fault = .unknownFunction (functionName cell) := by
  rw [ofFormula_eq] at failed
  split at failed
  · contradiction
  · cases named : Builtin.lookup (functionName cell) with
    | error cause =>
      rw [named] at failed
      exact Except.error.inj failed ▸ lookup_eq_error named
    | ok function =>
      rw [named] at failed
      contradiction

/-- Only a cell that is no formula is a literal. -/
theorem integerPrefix?_of_classify {cell : Text} {value : Float}
    (classified : classify cell = .ok (.literal value)) :
    Number.integerPrefix? (unquoted cell) = some value := by
  rw [classify] at classified
  split at classified
  · rw [ofFormula_eq_ok_iff] at classified
    simp at classified
  · next plain _ =>
    split at classified
    · next read => rw [read, Content.literal.inj (Except.ok.inj classified)]
    · contradiction

/-- A cell that starts with neither a quote nor an equals sign is its leading integer. -/
theorem classify_of_plain {first : Char} {rest : Text} (noQuote : first ≠ '"')
    (noEquals : first ≠ '=') :
    classify (first :: rest) = match Number.integerPrefix? (first :: rest) with
      | some value => .ok (.literal value)
      | none => .error (.invalidContent (first :: rest)) := by
  have plain : unquoted (first :: rest) = first :: rest := by
    rw [unquoted]
    rintro other ⟨⟩
    contradiction
  rw [classify, plain]
  split
  · next same => exact absurd (List.cons.inj same).1 noEquals
  · rfl

theorem classify_eq_literal {first : Char} {rest : Text} (noQuote : first ≠ '"')
    (noEquals : first ≠ '=') {value : Float}
    (read : Number.integerPrefix? (first :: rest) = some value) :
    classify (first :: rest) = .ok (.literal value) := by
  rw [classify_of_plain noQuote noEquals, read]

theorem isFinite_of_classify {cell : Text} {value : Float}
    (classified : classify cell = .ok (.literal value)) : Binary64.isFinite value = true :=
  Number.isFinite_of_integerPrefix? (integerPrefix?_of_classify classified)

theorem classify_eq_error {cell : Text} {fault : Fault} (failed : classify cell = .error fault) :
    (∃ name, fault = .unknownFunction name) ∨ fault = .invalidContent cell := by
  rw [classify] at failed
  split at failed
  · exact .inl ⟨_, ofFormula_eq_error failed⟩
  · split at failed
    · contradiction
    · exact .inr (Except.error.inj failed).symm

end FlatSheet.Content
