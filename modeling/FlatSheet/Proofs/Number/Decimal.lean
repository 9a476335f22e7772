import FlatSheet.Number.Decimal
import FlatSheet.Proofs.Binary64.Rounded

/-! # What a decimal is rounded to

A decimal denotes a rational, a quotient of two natural numbers with a sign. It is rounded as that
quotient is, also where an exponent out of reach decides alone: the power of ten is then beyond the
overflow, or the quotient is less than half of a unit. So the finite number of a decimal is the one
that its rational is rounded to, with the sign of the decimal, and there is none exactly from the
overflow on.
-/

namespace FlatSheet

open Binary64

namespace Decimal

variable (decimal : Decimal)

/-- The rational that a decimal denotes. -/
def value : ℚ := withSign decimal.negative (decimal.significand * 10 ^ decimal.exponent)

/-- The significand with the zeros that a positive exponent adds. -/
def numerator : ℕ := decimal.significand * 10 ^ decimal.exponent.toNat

/-- The power of ten that a negative exponent divides by. -/
def denominator : ℕ := 10 ^ (-decimal.exponent).toNat

theorem denominator_pos : 0 < decimal.denominator := Nat.pow_pos (by decide)

theorem value_eq : decimal.value =
    withSign decimal.negative ((decimal.numerator : ℚ) / decimal.denominator) := by
  rw [value, numerator, denominator]
  cases decimal.exponent with
  | ofNat power => simp
  | negSucc power => simp [zpow_negSucc, div_eq_mul_inv]

private theorem overflow_le_ten_pow : overflow ≤ 10 ^ (reach + 1) := by decide +kernel

private theorem mul_oneUnits_le_ten_pow : 4 * oneUnits ≤ 10 ^ (reach + 1) := by decide +kernel

/-- A significand without the reach of a power of ten is less than half of a unit. -/
theorem two_mul_lt_ten_pow {significand power : ℕ} (far : reach + significand.log2 < power) :
    2 * (significand * oneUnits) < 10 ^ (power + 1) := by
  have digits : significand < 2 * 10 ^ significand.log2 := by
    calc
      significand < 2 ^ (significand.log2 + 1) := Nat.lt_log2_self
      _ = 2 * 2 ^ significand.log2 := by rw [Nat.pow_succ, Nat.mul_comm]
      _ ≤ 2 * 10 ^ significand.log2 := Nat.mul_le_mul_left _ (Nat.pow_le_pow_left (by decide) _)
  calc
    2 * (significand * oneUnits) < 2 * (2 * 10 ^ significand.log2 * oneUnits) :=
      Nat.mul_lt_mul_of_pos_left (Nat.mul_lt_mul_of_pos_right digits oneUnits_pos) (by decide)
    _ = 4 * oneUnits * 10 ^ significand.log2 := by ring
    _ ≤ 10 ^ (reach + 1) * 10 ^ significand.log2 := Nat.mul_le_mul_right _ mul_oneUnits_le_ten_pow
    _ = 10 ^ (reach + 1 + significand.log2) := (Nat.pow_add ..).symm
    _ ≤ 10 ^ (power + 1) := Nat.pow_le_pow_right (by decide) (by omega)

/-- A decimal is rounded as the quotient that it denotes. -/
theorem toFloat_eq_ofQuotient :
    decimal.toFloat = ofQuotient decimal.negative decimal.numerator decimal.denominator := by
  obtain ⟨negative, significand, exponent⟩ := decimal
  rw [toFloat, numerator, denominator]
  by_cases zero : significand = 0
  · rw [if_pos zero, ofQuotient, zero, Nat.zero_mul, Nat.zero_mul, nearestPlace_zero]
  · rw [if_neg zero]
    cases exponent with
    | ofNat power =>
      have whole : 10 ^ (-Int.ofNat power).toNat = 1 := by simp
      rw [whole]
      change (if reach < power then infinity negative
        else ofQuotient negative (significand * 10 ^ power) 1) =
          ofQuotient negative (significand * 10 ^ power) 1
      split
      · next far =>
        refine (ofQuotient_of_overflow negative _ Nat.one_pos ?_).symm
        have beyond : overflow ≤ significand * 10 ^ power :=
          (overflow_le_ten_pow.trans (Nat.pow_le_pow_right (by decide) far)).trans
            (Nat.le_mul_of_pos_left _ (Nat.pos_of_ne_zero zero))
        rw [Nat.cast_one, div_one]
        exact_mod_cast beyond
      · rfl
    | negSucc power =>
      change (if reach + significand.log2 < power then atPlace negative 0
        else ofQuotient negative significand (10 ^ (power + 1))) =
          ofQuotient negative (significand * 1) (10 ^ (power + 1))
      rw [Nat.mul_one]
      split
      · next far => rw [ofQuotient, nearestPlace_of_lt (two_mul_lt_ten_pow far)]
      · rfl

/-- A decimal with decimals is rounded as a fraction. -/
theorem toFloat_of_places (negative : Bool) (significand places : ℕ) :
    toFloat ⟨negative, significand, -places⟩ = ofQuotient negative significand (10 ^ places) := by
  rw [toFloat_eq_ofQuotient, numerator, denominator, Int.toNat_neg_natCast, Nat.pow_zero, Nat.mul_one,
    Int.neg_neg, Int.toNat_natCast]

/-- A decimal without decimals or exponent is rounded as a count. -/
theorem toFloat_of_count (negative : Bool) (count : ℕ) :
    toFloat ⟨negative, count, 0⟩ = ofQuotient negative count 1 :=
  toFloat_of_places negative count 0

theorem denotes_lt_overflow_iff : |decimal.value| < overflow ↔
    (decimal.numerator : ℚ) / decimal.denominator < overflow := by
  rw [value_eq, abs_withSign]
  exact div_nonneg decimal.numerator.cast_nonneg decimal.denominator.cast_nonneg

theorem isFinite_toFloat_iff : isFinite decimal.toFloat = true ↔ |decimal.value| < overflow := by
  rw [toFloat_eq_ofQuotient, denotes_lt_overflow_iff]
  exact isFinite_ofQuotient_iff _ _ decimal.denominator_pos

/-- A decimal has no finite number exactly from the overflow on. -/
theorem toFinite?_eq_none_iff : decimal.toFinite? = none ↔ (overflow : ℚ) ≤ |decimal.value| := by
  rw [← not_lt, ← isFinite_toFloat_iff, toFinite?]
  simp

/-- The finite number of a decimal is what the decimal is rounded to, with the same sign. -/
theorem toFinite?_eq_some_iff (number : Float) : decimal.toFinite? = some number ↔
    isNegative number = decimal.negative ∧ IsRounded decimal.value number := by
  have sign : isNegative decimal.toFloat = decimal.negative := by
    rw [toFloat_eq_ofQuotient, isNegative_ofQuotient]
  have rounds (inside : |decimal.value| < overflow) : IsRounded decimal.value decimal.toFloat := by
    rw [denotes_lt_overflow_iff] at inside
    rw [value_eq, toFloat_eq_ofQuotient]
    exact isRounded_ofQuotient _ _ decimal.denominator_pos inside
  rw [toFinite?]
  constructor
  · intro read
    obtain ⟨finite, same⟩ := Option.ite_none_right_eq_some.mp read
    obtain rfl := Option.some.inj same
    exact ⟨sign, rounds (decimal.isFinite_toFloat_iff.mp finite)⟩
  · rintro ⟨signs, rounded⟩
    have finite := decimal.isFinite_toFloat_iff.mpr rounded.inside
    rw [if_pos finite, (rounds rounded.inside).unique rounded (sign.trans signs.symm)]

end Decimal

end FlatSheet
