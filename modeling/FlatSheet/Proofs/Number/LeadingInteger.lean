import FlatSheet.Proofs.Number.Decimal
import FlatSheet.Proofs.Number.Integer

/-! # Leading integers as numbers

The leading integer of a text may have any number of digits. It is rounded once to the nearest
number, a tie going to the even place, and it keeps its sign, also when it is zero. Up to 53 binary
digits it is that number itself. What follows the digits does not count, so a text may go on in any
way but with another digit.
-/

namespace FlatSheet

open Binary64

private theorem Text.toNumber_eq_zero {digits : Text} (zeros : ∀ digit ∈ digits, digit = '0') :
    toNumber digits = 0 := by
  have none := toNumber_zeros_append digits.length []
  rwa [← List.eq_replicate_of_mem zeros, List.append_nil] at none

theorem Decimal.value_of_count (negative : Bool) (count : ℕ) :
    value ⟨negative, count, 0⟩ = withSign negative count := by
  rw [value, zpow_zero, mul_one]

namespace Number

namespace LeadingInteger

variable {text lead sign digits rest : Text} (leads : LeadingInteger text lead sign digits rest)

include leads

theorem integerPrefix?_eq_none_iff :
    integerPrefix? text = none ↔ digits = [] ∨ overflow ≤ digits.toNumber := by
  rw [leads.integerPrefix?_eq]
  by_cases none : digits = []
  · simp [none]
  · rw [if_neg none, Decimal.toFinite?_eq_none_iff, Decimal.value_of_count,
      abs_withSign _ digits.toNumber.cast_nonneg, Nat.cast_le, or_iff_right none]

theorem integerPrefix?_eq_some_iff (number : Float) : integerPrefix? text = some number ↔
    digits ≠ [] ∧ isNegative number = (sign == ['-']) ∧
      IsRounded (withSign (sign == ['-']) digits.toNumber) number := by
  rw [leads.integerPrefix?_eq]
  by_cases none : digits = []
  · simp [none]
  · rw [if_neg none, Decimal.toFinite?_eq_some_iff, Decimal.value_of_count, and_iff_right none]

variable (nonempty : digits ≠ [])

include nonempty

/-- Up to 53 binary digits an integer is read as what it is. -/
theorem exists_integerPrefix?_eq (small : digits.toNumber ≤ 2 ^ 53) :
    ∃ number, integerPrefix? text = some number ∧ isNegative number = (sign == ['-']) ∧
      value number = withSign (sign == ['-']) digits.toNumber := by
  obtain ⟨exact, finite, same⟩ := exists_value_eq_withSign (sign == ['-']) small
  have read : integerPrefix? text ≠ none := by
    rw [Ne, leads.integerPrefix?_eq_none_iff, not_or, not_le]
    exact ⟨nonempty, small.trans_lt (by decide +kernel)⟩
  obtain ⟨number, read⟩ := Option.ne_none_iff_exists'.mp read
  obtain ⟨-, negative, rounded⟩ := (leads.integerPrefix?_eq_some_iff number).mp read
  exact ⟨number, read, negative, rounded.value_eq finite same⟩

/-- Zeros keep their sign. -/
theorem integerPrefix?_eq_zero (zeros : ∀ digit ∈ digits, digit = '0') :
    integerPrefix? text = some (if sign = ['-'] then -0 else 0) := by
  rw [leads.integerPrefix?_eq, if_neg nonempty, Text.toNumber_eq_zero zeros]
  by_cases minus : sign = ['-']
  · rw [if_pos minus, minus]
    decide +kernel
  · rw [if_neg minus, beq_false_of_ne minus]
    decide +kernel

/-- More text that starts with no digit does not change what is read. -/
theorem integerPrefix?_append {more : Text} (apart : ∀ char ∈ more.head?, char.isDigit = false) :
    integerPrefix? (text ++ more) = integerPrefix? text := by
  have ended : ∀ char ∈ (rest ++ more).head?, char.isDigit = false := by
    cases rest with
    | nil => exact apart
    | cons char rest => exact leads.ended
  have longer := leadingInteger_of_digits leads.known nonempty leads.allDigits ended leads.allBlank
  have same : lead ++ (sign ++ (digits ++ (rest ++ more))) = text ++ more := by
    simp [leads.split]
  rw [same] at longer
  rw [leads.integerPrefix?_eq, longer.integerPrefix?_eq]

end LeadingInteger

/-- Every text can be cut into blanks, a sign or none, all digits that follow, and a rest. However
many digits these are, there is no number exactly when there are none at all or when the integer is
from the overflow on, and otherwise the number is the one that the integer with its sign is rounded
to, with that sign: the integer itself up to 2^53, and negative zero for zeros after a minus. Text
behind the digits does not count, unless it goes on with a digit. -/
theorem integerPrefix?_rounds_leading_integer (text : Text) :
    (∃ lead sign digits rest, LeadingInteger text lead sign digits rest) ∧
    ∀ lead sign digits rest, LeadingInteger text lead sign digits rest →
      (integerPrefix? text = none ↔ digits = [] ∨ overflow ≤ digits.toNumber) ∧
      (∀ number, integerPrefix? text = some number ↔
        digits ≠ [] ∧ isNegative number = (sign == ['-']) ∧
          IsRounded (withSign (sign == ['-']) digits.toNumber) number) ∧
      (digits ≠ [] → digits.toNumber ≤ 2 ^ 53 →
        ∃ number, integerPrefix? text = some number ∧ isNegative number = (sign == ['-']) ∧
          value number = withSign (sign == ['-']) digits.toNumber) ∧
      (digits ≠ [] → (∀ digit ∈ digits, digit = '0') →
        integerPrefix? text = some (if sign = ['-'] then -0 else 0)) ∧
      ∀ more, digits ≠ [] → (∀ char ∈ more.head?, char.isDigit = false) →
        integerPrefix? (text ++ more) = integerPrefix? text := by
  refine ⟨exists_leadingInteger text, fun lead sign digits rest leads => ?_⟩
  refine ⟨leads.integerPrefix?_eq_none_iff, leads.integerPrefix?_eq_some_iff, ?_, ?_, ?_⟩
  · exact fun nonempty small => leads.exists_integerPrefix?_eq nonempty small
  · exact fun nonempty zeros => leads.integerPrefix?_eq_zero nonempty zeros
  · exact fun more nonempty apart => leads.integerPrefix?_append nonempty apart

/-- The count 2^53 + 1 is halfway between two numbers and read as the even one, and the least count
that is too large is read as none. -/
theorem integerPrefix?_rounds_leading_integer_tie :
    let digits := "9007199254740993".toList
    let text := "\u00a0\t-9007199254740993.9e5".toList
    LeadingInteger text "\u00a0\t".toList ['-'] digits ".9e5".toList ∧ digits ≠ [] ∧
      integerPrefix? text = some (-9007199254740992) ∧
      IsRounded (-9007199254740993) (-9007199254740992) ∧
      integerPrefix? (text ++ "-1".toList) = integerPrefix? text ∧
      integerPrefix? ('+' :: Text.ofNumber overflow) = none ∧
      integerPrefix? "-000".toList = some (-0) ∧
      ∃ number, integerPrefix? "9007199254740992".toList = some number ∧
        value number = 9007199254740992 := by
  intro digits text
  have leads : LeadingInteger text "\u00a0\t".toList ['-'] digits ".9e5".toList :=
    ⟨rfl, by simp [Text.AllBlank, isBlank], by simp [isBlank], by decide, by simp, by decide,
      by simp⟩
  have beyond : LeadingInteger ('+' :: Text.ofNumber overflow) [] ['+'] (Text.ofNumber overflow) [] :=
    ⟨by simp, List.forall_mem_nil _, by simp [isBlank], by decide, by simp,
      Text.allDigits_ofNumber overflow, by simp⟩
  have zeros : LeadingInteger "-000".toList [] ['-'] "000".toList [] :=
    ⟨rfl, List.forall_mem_nil _, by simp [isBlank], by decide, by simp, by decide, by simp⟩
  have power : LeadingInteger "9007199254740992".toList [] [] "9007199254740992".toList [] :=
    ⟨rfl, List.forall_mem_nil _, by simp [isBlank], by decide, by simp, by decide, by simp⟩
  have read : integerPrefix? text = some (-9007199254740992) := by decide +kernel
  have counted : Text.toNumber digits = 9007199254740993 := by decide +kernel
  have countedPower : Text.toNumber "9007199254740992".toList = 9007199254740992 := by
    decide +kernel
  obtain ⟨-, cut⟩ := integerPrefix?_rounds_leading_integer text
  obtain ⟨-, rounds, -, -, longer⟩ := cut _ _ _ _ leads
  obtain ⟨-, -, rounded⟩ := (rounds _).mp read
  obtain ⟨none, -⟩ := (integerPrefix?_rounds_leading_integer _).2 _ _ _ _ beyond
  obtain ⟨-, -, -, zero, -⟩ := (integerPrefix?_rounds_leading_integer _).2 _ _ _ _ zeros
  obtain ⟨-, -, exact, -⟩ := (integerPrefix?_rounds_leading_integer _).2 _ _ _ _ power
  obtain ⟨number, exactly, -, same⟩ := exact (by decide) (countedPower.trans_le (by decide))
  rw [counted] at rounded
  rw [countedPower] at same
  refine ⟨leads, by decide, read, by simpa [withSign] using rounded, longer _ (by decide) (by simp),
    none.mpr (.inr ?_), zero (by decide) (by simp), number, exactly, by simpa [withSign] using same⟩
  rw [Text.toNumber_ofNumber]

end Number

end FlatSheet
