import FlatSheet.Proofs.Binary64.Basic
import FlatSheet.Proofs.Content.Classification
import FlatSheet.Proofs.Record.Conditional
import FlatSheet.Proofs.Record.Pass
import FlatSheet.Proofs.Record.Refusals

/-! # What functions are applied to

Every operand comes from a cell or an argument that is a finite number, the columns of a range are
among the first 26, and there is no operand without a cell. So a mean never has to divide by zero,
and the only division by zero that a record can lead to is a remainder by a zero.
-/

namespace FlatSheet

namespace Record

/-- Operands that a function can be applied to in a record. -/
structure Applicable (record : Record) (operands : List Float) : Prop where
  nonempty : operands ≠ []
  columns : operands.length ≤ Reference.columnCount
  finite : ∀ operand ∈ operands, Binary64.isFinite operand = true
  populated : 0 < record.size

theorem isFinite_of_numberAt? {record : Record} {column : Nat} {number : Float}
    (found : record.numberAt? column = some number) : Binary64.isFinite number = true := by
  obtain ⟨cell, -, parsed⟩ := (numberAt?_eq_some_iff record column number).mp found
  exact Number.isFinite_of_parse? parsed

theorem isFinite_of_valueAt {record : Record} {text : Text} {value : Float}
    (read : record.valueAt text = .ok value) : Binary64.isFinite value = true := by
  obtain ⟨reference, -, found⟩ := (valueAt_eq_ok_iff record text value).mp read
  exact isFinite_of_numberAt? found

private theorem isFinite_of_operand {record : Record} {text : Text} {value : Float}
    (read : record.operand text = .ok value) : Binary64.isFinite value = true := by
  rw [operand] at read
  split at read
  · next parsed => exact Number.isFinite_of_parse? (Except.ok.inj read ▸ parsed)
  · exact isFinite_of_valueAt read

private theorem length_columnsTo_le {first last : Reference}
    (inside : last.column < Reference.columnCount) :
    (first.columnsTo last).length ≤ Reference.columnCount := by
  rw [Reference.columnsTo, List.length_range']
  omega

theorem applicable_of_operands {record : Record} {function : Builtin} {arguments : Arguments}
    {values : List Float} (read : record.operands function arguments = .ok values) :
    record.Applicable values := by
  obtain ⟨nonempty, populated⟩ := ne_nil_of_operands read
  suffices bounds : values.length ≤ Reference.columnCount ∧
      ∀ value ∈ values, Binary64.isFinite value = true from
    ⟨nonempty, bounds.1, bounds.2, populated⟩
  fun_cases record.operands function arguments with
  | case1 start stop =>
    obtain ⟨first, last, -, atStop, ordered, -, numbers⟩ := (rangeValues_eq_ok_iff ..).mp read
    have lengths := congrArg List.length numbers
    rw [List.length_map, List.length_map] at lengths
    refine ⟨?_, ?_⟩
    · rw [← lengths]
      exact length_columnsTo_le (Reference.column_lt_of_resolve atStop)
    · intro value member
      have held : some value ∈ (first.columnsTo last).map record.numberAt? :=
        numbers ▸ List.mem_map_of_mem member
      obtain ⟨column, -, found⟩ := List.mem_map.mp held
      exact isFinite_of_numberAt? found
  | case2 first second =>
    obtain ⟨left, right, atFirst, atSecond, rfl⟩ := (operands_pair_eq_ok_iff ..).mp read
    refine ⟨by simp [Reference.columnCount], ?_⟩
    simp [isFinite_of_valueAt atFirst, isFinite_of_operand atSecond]
  | case3 items other =>
    rw [operands] at read
    · contradiction
    · exact other
  | case4 text =>
    obtain ⟨value, atText, single⟩ := (Traversal.bind_eq_ok_iff ..).mp read
    obtain rfl := Except.ok.inj single
    refine ⟨by simp [Reference.columnCount], ?_⟩
    simp [isFinite_of_valueAt atText]

end Record

/-- Neither a record without cells nor a division by zero. -/
def Fault.OfReading : Fault → Prop
  | .noCells | .divisionByZero _ => False
  | _ => True

/-- Only faults of reading. -/
def Reads {α : Type} (outcome : Except Fault α) : Prop :=
  ∀ fault, outcome = .error fault → fault.OfReading

private theorem reads_ok {α : Type} (value : α) : Reads (.ok value) := by
  intro fault failed
  contradiction

private theorem Condition.Unread.ofReading {text : Text} {fault : Fault}
    (unread : Unread text fault) :
    fault.OfReading := by
  cases unread <;> trivial

namespace Record

private theorem Unread.ofReading {record : Record} {text : Text} {fault : Fault}
    (unread : record.Unread text fault) : fault.OfReading := by
  cases unread <;> trivial

theorem reads_operands (record : Record) (function : Builtin) (arguments : Arguments) :
    Reads (record.operands function arguments) := by
  intro fault failed
  cases unreadOperands_of_operands failed with
  | range unread => cases unread <;> trivial
  | list unread =>
    cases unread with
    | count other => trivial
    | first unread => exact unread.ofReading
    | second holds noNumber unread => exact unread.ofReading
  | single unread => exact unread.ofReading

private theorem reads_conditional (items : List Text) : Reads (conditional items) := by
  intro fault failed
  cases ((conditional_iff items).2 fault).mp failed with
  | count other => trivial
  | condition unread => exact unread.ofReading
  | branch decides selected noInteger => trivial

end Record

namespace Builtin

theorem binary_ne_error {function : Builtin} {operands : List Float}
    {value : Float → Float → Except Fault Float} {fault : Fault}
    (uncounted : ∀ named expected given, fault ≠ .wrongCount named expected given)
    (never : ∀ first second, value first second ≠ .error fault) :
    function.binary operands value ≠ .error fault := by
  unfold binary
  split
  · exact never _ _
  · exact fun same => uncounted _ _ _ (Except.error.inj same).symm

/-- A mean divides by zero where there is nothing to divide, and a remainder by a zero of either
sign. -/
theorem apply_eq_divisionByZero_iff (function named : Builtin) (operands : List Float)
    (population : Nat) :
    function.apply operands population = .error (.divisionByZero named) ↔ named = function ∧
      (function = .avg ∧ operands = [] ∨ function = .stdev ∧ (operands = [] ∨ population = 0) ∨
        function = .mod ∧ ∃ dividend divisor, operands = [dividend, divisor] ∧
          (divisor = 0 ∨ divisor = -0)) := by
  cases function with
  | sum | count | ifElse => simp [apply]
  | avg => by_cases none : operands = [] <;> simp [apply, none, eq_comm (a := named)]
  | stdev => by_cases none : operands = [] ∨ population = 0 <;> simp [apply, none, eq_comm (a := named)]
  | max | min | pow =>
    simp only [reduceCtorEq, false_and, or_self, and_false, iff_false]
    exact binary_ne_error (by simp) (by simp)
  | mod =>
    rw [apply]
    unfold binary
    split
    · next dividend divisor =>
      by_cases zero : (divisor == 0) = true
      · simp [zero, (Binary64.beq_zero_iff divisor).mp zero, eq_comm (a := named)]
      · have other := mt (Binary64.beq_zero_iff divisor).mpr zero
        simp [zero, other]
    · next other =>
      simp only [reduceCtorEq, Except.error.injEq, false_and, false_or, true_and, false_iff]
      rintro ⟨-, dividend, divisor, rfl, -⟩
      exact other dividend divisor rfl

/-- A function refuses its operands by their count or for a division by zero. -/
theorem apply_ne_error (function : Builtin) (operands : List Float) (population : Nat) {fault : Fault}
    (undivided : ∀ named, fault ≠ .divisionByZero named)
    (uncounted : ∀ named expected given, fault ≠ .wrongCount named expected given) :
    function.apply operands population ≠ .error fault := by
  cases function with
  | sum | count => exact nofun
  | ifElse => exact fun same => uncounted _ _ _ (Except.error.inj same).symm
  | avg | stdev =>
    rw [apply]
    split
    · exact fun same => undivided _ (Except.error.inj same).symm
    · exact nofun
  | max | min | pow => exact binary_ne_error uncounted fun _ _ => nofun
  | mod =>
    refine binary_ne_error uncounted fun dividend divisor => ?_
    split
    · exact fun same => undivided _ (Except.error.inj same).symm
    · exact nofun

end Builtin

namespace Record

/-- A remainder of exactly two operands, the second of which is a zero of either sign. -/
def DividesByZero (record : Record) (content : Content) : Prop :=
  ∃ arguments dividend divisor, content = .formula .mod arguments ∧
    record.operands .mod arguments = .ok [dividend, divisor] ∧ (divisor = 0 ∨ divisor = -0)

private theorem apply_eq_divisionByZero_iff_of_applicable {record : Record} {operands : List Float}
    (applicable : record.Applicable operands) (function named : Builtin) :
    function.apply operands record.size = .error (.divisionByZero named) ↔
      named = .mod ∧ function = .mod ∧ ∃ dividend divisor, operands = [dividend, divisor] ∧
        (divisor = 0 ∨ divisor = -0) := by
  have populated : record.size ≠ 0 := Nat.ne_of_gt applicable.populated
  rw [Builtin.apply_eq_divisionByZero_iff]
  simp only [applicable.nonempty, populated, or_self, and_false, false_or]
  constructor
  · rintro ⟨rfl, rfl, zero⟩
    exact ⟨rfl, rfl, zero⟩
  · rintro ⟨rfl, rfl, zero⟩
    exact ⟨rfl, rfl, zero⟩

/-- A content is read without a division, or it is a function applied to operands. -/
theorem reads_or_applies (record : Record) (content : Content) :
    Reads (record.evaluate content) ∧ ¬record.DividesByZero content ∨
      ∃ function arguments, content = .formula function arguments ∧
        record.evaluate content = record.operands function arguments >>= fun operands =>
          function.apply operands record.size := by
  cases content using Content.evaluationCases with
  | literal value => exact .inl ⟨reads_ok _, by simp [DividesByZero]⟩
  | conditional items => exact .inl ⟨reads_conditional items, by simp [DividesByZero]⟩
  | applied function arguments unconditional =>
    exact .inr ⟨function, arguments, rfl, record.evaluate_formula function arguments unconditional⟩
  | invalid => exact .inl ⟨reads_ok _, by simp [DividesByZero]⟩

theorem evaluate_eq_divisionByZero_iff (record : Record) (content : Content) (named : Builtin) :
    record.evaluate content = .error (.divisionByZero named) ↔
      named = .mod ∧ record.DividesByZero content := by
  rcases record.reads_or_applies content with ⟨reads, other⟩ | ⟨function, arguments, rfl, applied⟩
  · exact ⟨fun failed => (reads _ failed).elim, fun divides => (other divides.2).elim⟩
  · rw [applied, Traversal.bind_eq_error_iff]
    have unread : record.operands function arguments ≠ .error (.divisionByZero named) :=
      fun failed => record.reads_operands function arguments _ failed
    simp only [unread, false_or]
    constructor
    · rintro ⟨operands, read, failed⟩
      obtain ⟨rfl, rfl, dividend, divisor, rfl, zero⟩ :=
        (apply_eq_divisionByZero_iff_of_applicable (applicable_of_operands read) _ _).mp failed
      exact ⟨rfl, arguments, dividend, divisor, rfl, read, zero⟩
    · rintro ⟨rfl, arguments, dividend, divisor, same, read, zero⟩
      obtain ⟨rfl, rfl⟩ := Content.formula.inj same
      refine ⟨_, read, ?_⟩
      exact (apply_eq_divisionByZero_iff_of_applicable (applicable_of_operands read) _ _).mpr
        ⟨rfl, rfl, dividend, divisor, rfl, zero⟩

theorem evaluate_ne_noCells (record : Record) (content : Content) :
    record.evaluate content ≠ .error .noCells := by
  rcases record.reads_or_applies content with ⟨reads, -⟩ | ⟨function, arguments, rfl, applied⟩
  · exact fun failed => reads _ failed
  · rw [applied, ne_eq, Traversal.bind_eq_error_iff]
    rintro (unread | ⟨operands, -, failed⟩)
    · exact record.reads_operands function arguments _ unread
    · exact function.apply_ne_error operands record.size (by simp) (by simp) failed

/-- The faults of classifying are neither of the two. -/
theorem reads_classify (cell : Text) : Reads (Content.classify cell) := by
  intro fault failed
  rcases Content.classify_eq_error failed with ⟨name, rfl⟩ | rfl
  · trivial
  · trivial

private theorem valueOf_eq_divisionByZero_iff (record : Record) (cell : Text) (named : Builtin) :
    record.valueOf cell = .error (.divisionByZero named) ↔ named = .mod ∧
      ∃ content, Content.classify cell = .ok content ∧ record.DividesByZero content := by
  have unclassified : Content.classify cell ≠ .error (.divisionByZero named) :=
    fun failed => reads_classify cell _ failed
  change Content.classify cell >>= record.evaluate = _ ↔ _
  rw [Traversal.bind_eq_error_iff]
  simp only [unclassified, false_or, evaluate_eq_divisionByZero_iff]
  constructor
  · rintro ⟨content, classified, same, divides⟩
    exact ⟨same, content, classified, divides⟩
  · rintro ⟨same, content, classified, divides⟩
    exact ⟨content, classified, same, divides⟩

private theorem valueOf_ne_noCells (record : Record) (cell : Text) :
    record.valueOf cell ≠ .error .noCells := by
  change Content.classify cell >>= record.evaluate ≠ _
  rw [ne_eq, Traversal.bind_eq_error_iff]
  rintro (unclassified | ⟨content, -, failed⟩)
  · exact reads_classify cell _ unclassified
  · exact record.evaluate_ne_noCells content failed

private theorem process_answer (record : Record) (index : Nat) (cell : Text) (results : Results) :
    ((record.process index cell).run.run results).1 = (record.valueOf cell).map fun _ => () := by
  rw [process_run]
  cases record.valueOf cell <;> rfl

/-- The evaluation with another way to apply functions. -/
def evaluateWith (record : Record) (apply : Builtin → List Float → Nat → Except Fault Float) :
    Content → Except Fault Float
  | .literal value => .ok value
  | .formula function arguments =>
    match function.arity, arguments with
    | .conditional, .list items => conditional items
    | _, arguments => do
      let operands ← record.operands function arguments
      apply function operands record.size
  | .invalid => .ok 0

/-- Functions are only applied to operands that they can be applied to. -/
theorem evaluateWith_eq_evaluate (record : Record)
    {apply : Builtin → List Float → Nat → Except Fault Float}
    (agrees : ∀ function operands, record.Applicable operands →
      apply function operands record.size = function.apply operands record.size)
    (content : Content) : record.evaluateWith apply content = record.evaluate content := by
  cases content using Content.evaluationCases with
  | literal value => rfl
  | conditional items => rfl
  | applied function arguments unconditional =>
    have same : (record.operands function arguments >>= fun operands =>
          apply function operands record.size) =
        record.operands function arguments >>= fun operands =>
          function.apply operands record.size := by
      cases read : record.operands function arguments with
      | error fault => rfl
      | ok operands => exact agrees function operands (applicable_of_operands read)
    rw [evaluate_formula record function arguments unconditional, ← same]
    exact Arguments.match_eq_of_unconditional conditional _ unconditional
  | invalid => rfl

/-- Functions are applied to at least one and at most 26 finite numbers, with the size of a record
that has cells, and literals are finite. So a record that is there never turns out to be none, and
no mean divides by zero: only a remainder by a zero does. -/
theorem evaluate_applies_to_finite_operands :
    (∀ (record : Record) (function : Builtin) (arguments : Arguments) (operands : List Float),
      record.operands function arguments = .ok operands → operands ≠ [] ∧ operands.length ≤ 26 ∧
        (∀ operand ∈ operands, Binary64.isFinite operand = true) ∧ 1 ≤ record.size) ∧
    (∀ (record : Record) (apply : Builtin → List Float → Nat → Except Fault Float),
      (∀ function operands, operands ≠ [] → operands.length ≤ 26 →
        (∀ operand ∈ operands, Binary64.isFinite operand = true) → 1 ≤ record.size →
        apply function operands record.size = function.apply operands record.size) →
      ∀ content, record.evaluateWith apply content = record.evaluate content) ∧
    (∀ cell value, Content.classify cell = .ok (.literal value) →
      Binary64.isFinite value = true) ∧
    (∀ (record : Record) (content : Content), record.evaluate content ≠ .error .noCells ∧
      ∀ named, record.evaluate content = .error (.divisionByZero named) ↔
        named = .mod ∧ record.DividesByZero content) ∧
    (∀ (record : Record) (index : Nat) (cell : Text) (results : Results),
      ((record.process index cell).run.run results).1 ≠ .error .noCells ∧
      ∀ named, ((record.process index cell).run.run results).1 = .error (.divisionByZero named) ↔
        named = .mod ∧
          ∃ content, Content.classify cell = .ok content ∧ record.DividesByZero content) ∧
    (∀ (record : Record), record.compile ≠ .error .noCells ∧
      ∀ named, record.compile = .error (.divisionByZero named) → named = .mod ∧
        ∃ cell ∈ record.cells, ∃ content, Content.classify cell = .ok content ∧
          record.DividesByZero content) := by
  refine ⟨?_, ?_, fun _ _ => Content.isFinite_of_classify, ?_, ?_, ?_⟩
  · intro record function arguments operands read
    have applicable := applicable_of_operands read
    exact ⟨applicable.nonempty, applicable.columns, applicable.finite, applicable.populated⟩
  · intro record apply agrees
    refine record.evaluateWith_eq_evaluate fun function operands applicable => ?_
    exact agrees function operands applicable.nonempty applicable.columns applicable.finite
      applicable.populated
  · intro record content
    exact ⟨record.evaluate_ne_noCells content, record.evaluate_eq_divisionByZero_iff content⟩
  · intro record index cell results
    have answer (fault : Fault) :
        ((record.process index cell).run.run results).1 = .error fault ↔
          record.valueOf cell = .error fault := by
      rw [process_answer]
      cases record.valueOf cell <;> simp [Except.map]
    refine ⟨fun failed => record.valueOf_ne_noCells cell ((answer _).mp failed), fun named => ?_⟩
    rw [answer, valueOf_eq_divisionByZero_iff]
  · intro record
    refine ⟨fun failed => ?_, fun named failed => ?_⟩
    · obtain ⟨index, cell, -, failed, -⟩ := (record.compile_eq_error_iff _).mp failed
      exact record.valueOf_ne_noCells cell failed
    · obtain ⟨index, cell, present, failed, -⟩ := (record.compile_eq_error_iff _).mp failed
      obtain ⟨same, divides⟩ := (record.valueOf_eq_divisionByZero_iff cell named).mp failed
      exact ⟨same, cell, Array.mem_of_getElem? present, divides⟩

/-- A remainder by a negative zero ends a pass. Its operands are finite, a function that refuses to
be applied to nothing would not be noticed, and the cells before it are finite as well. -/
theorem evaluate_applies_to_finite_operands_negative_zero :
    let record := ofCells ["5".toList, "-0".toList, "=MOD(A1:B1)".toList]
    let content := Content.formula .mod (.range "A1".toList "B1".toList)
    (∀ operand ∈ [(5 : Float), -0], Binary64.isFinite operand = true) ∧
    record.evaluateWith (fun function operands population =>
      if operands.isEmpty then .error .noCells else function.apply operands population) content =
        record.evaluate content ∧
    Binary64.isFinite (-0) = true ∧
    record.compile = .error (.divisionByZero .mod) ∧
    ∃ cell ∈ record.cells, ∃ content, Content.classify cell = .ok content ∧
      record.DividesByZero content := by
  intro record content
  obtain ⟨operands, applied, literals, -, -, pass⟩ := evaluate_applies_to_finite_operands
  have read : record.operands .mod (.range "A1".toList "B1".toList) = .ok [5, -0] := by
    decide +kernel
  have failed : record.compile = .error (.divisionByZero .mod) := by decide +kernel
  refine ⟨(operands record _ _ _ read).2.2.1, applied record _ ?_ content,
    literals "-0".toList (-0) (by decide +kernel), failed, ((pass record).2 .mod failed).2⟩
  intro function operands nonempty _ _ _
  rw [if_neg (by simpa using nonempty)]

end Record

end FlatSheet
