import FlatSheet.Proofs.Record.Operands

/-! # Outcomes of two records

Evaluation is made of steps that stop at the first fault. A relation between the outcomes of two
records that goes along with such steps holds of the evaluation of a content as soon as it holds of
single cells and of ranges.
-/

namespace FlatSheet

/-- A relation of outcomes that holds of equal ones and goes from a step to what follows it. -/
structure Stepwise (Related : {α : Type} → Except Fault α → Except Fault α → Prop) : Prop where
  refl {α : Type} (outcome : Except Fault α) : Related outcome outcome
  bind {α β : Type} {first second : Except Fault α} {next other : α → Except Fault β}
    (related : Related first second) (onward : ∀ value, Related (next value) (other value)) :
    Related (first >>= next) (second >>= other)

namespace Stepwise

variable {Related : {α : Type} → Except Fault α → Except Fault α → Prop}
  (stepwise : Stepwise Related) {first second : Record}
  (cells : ∀ text, Related (first.valueAt text) (second.valueAt text))
  (ranges : ∀ start stop, Related (first.rangeValues start stop) (second.rangeValues start stop))

include stepwise cells

private theorem operand (text : Text) : Related (first.operand text) (second.operand text) := by
  rw [Record.operand, Record.operand]
  split
  · exact stepwise.refl _
  · exact cells text

include ranges

theorem operands (function : Builtin) (arguments : Arguments) :
    Related (first.operands function arguments) (second.operands function arguments) := by
  fun_cases first.operands function arguments with
  | case1 start stop => exact ranges start stop
  | case2 left right =>
    refine stepwise.bind (cells left) fun left => ?_
    exact stepwise.bind (stepwise.operand cells right) fun right => stepwise.refl _
  | case3 items other =>
    rw [Record.operands]
    · exact stepwise.refl _
    · exact other
  | case4 reference => exact stepwise.bind (cells reference) fun value => stepwise.refl _

/-- The function may look at the size of the record as well. -/
theorem evaluate {content : Content}
    (applied : ∀ function arguments, content = .formula function arguments → ∀ values,
      Related (function.apply values first.size) (function.apply values second.size)) :
    Related (first.evaluate content) (second.evaluate content) := by
  cases content using Content.evaluationCases with
  | literal value => exact stepwise.refl _
  | conditional items => exact stepwise.refl _
  | applied function arguments unconditional =>
    rw [Record.evaluate_formula first function arguments unconditional,
      Record.evaluate_formula second function arguments unconditional]
    refine stepwise.bind (stepwise.operands cells ranges function arguments) ?_
    exact applied function arguments rfl
  | invalid => exact stepwise.refl _

end Stepwise

end FlatSheet
