import FlatSheet.Builtin.Apply
import FlatSheet.Proofs.Binary64.Rounded

/-! # Remainders

The quotient of two numbers may be far beyond the range of binary64, or lie between two neighbours
in it. What is left of the dividend is a number all the same: it is a whole count of the smaller of
the two units in which the operands are counted, and no more of them than the operand with that
unit has. So nothing is rounded, and the remainder is that of the rationals when their quotient is
cut off towards zero.
-/

namespace FlatSheet.Binary64

/-- What is left of a count in some unit is a magnitude when the count has 53 binary digits, because
no more is left than there was, or when the divisor has, because less is left than that. -/
theorem exists_unitsAt_eq_mul_mod (count divisor doublings : ℕ)
    (small : count ≤ 2 ^ 53 ∨ 0 < divisor ∧ divisor ≤ 2 ^ 53) :
    ∃ place, unitsAt place = count * 2 ^ doublings % (divisor * 2 ^ doublings) := by
  rw [Nat.mul_mod_mul_right]
  apply exists_unitsAt_eq_mul
  · rcases small with kept | ⟨positive, under⟩
    · exact (Nat.mod_le count divisor).trans kept
    · exact (Nat.mod_lt count positive).le.trans under
  · exact ⟨doublings, rfl⟩

/-- What is left of a magnitude is the magnitude at some place: both magnitudes are counted in the
finer one of their units. -/
theorem exists_unitsAt_eq_mod (dividend : ℕ) {divisor : ℕ} (nonzero : 0 < unitsAt divisor) :
    ∃ place, unitsAt place = unitsAt dividend % unitsAt divisor := by
  obtain ⟨doublings, steps, rfl, upper, within⟩ := exists_steps dividend
  obtain ⟨doublings', steps', rfl, upper', within'⟩ := exists_steps divisor
  rw [unitsAt_steps upper' within'.le] at nonzero ⊢
  rw [unitsAt_steps upper within.le]
  rcases Nat.le_total doublings doublings' with finer | coarser
  · obtain ⟨more, rfl⟩ := Nat.exists_eq_add_of_le' finer
    rw [Nat.pow_add, ← Nat.mul_assoc]
    exact exists_unitsAt_eq_mul_mod _ _ _ (.inl within.le)
  · obtain ⟨more, rfl⟩ := Nat.exists_eq_add_of_le' coarser
    rw [Nat.pow_add, ← Nat.mul_assoc]
    exact exists_unitsAt_eq_mul_mod _ _ _ (.inr ⟨Nat.pos_of_mul_pos_right nonzero, within'.le⟩)

private theorem exists_place_eq_mod {dividend divisor : ℕ} (finite : dividend < topPlace)
    (nonzero : 0 < unitsAt divisor) :
    ∃ place < topPlace, unitsAt place = unitsAt dividend % unitsAt divisor := by
  obtain ⟨place, same⟩ := exists_unitsAt_eq_mod dividend nonzero
  refine ⟨place, ?_, same⟩
  have less : unitsAt place ≤ unitsAt dividend := same ▸ Nat.mod_le _ _
  have below : place ≤ dividend := unitsAt_strictMono.le_iff_le.mp less
  omega

section

variable {dividend divisor : Float} (finite : isFinite dividend = true)
  (finite' : isFinite divisor = true) (nonzero : 0 < units divisor)

include finite finite' nonzero

/-- The remainder of finite numbers is found without rounding. -/
theorem exists_remainder_eq : ∃ place < topPlace,
    unitsAt place = units dividend % units divisor ∧
      remainder dividend divisor = atPlace (isNegative dividend) place := by
  obtain ⟨place, inside, same⟩ := exists_place_eq_mod (place_lt_of_isFinite finite) nonzero
  refine ⟨place, inside, same, ?_⟩
  have numbers := isNaN_of_isFinite finite
  have numbers' := isNaN_of_isFinite finite'
  have bounded := isInfinite_of_isFinite finite
  have bounded' := isInfinite_of_isFinite finite'
  rw [remainder, if_neg (by simp [numbers, numbers', bounded, nonzero.ne']),
    if_neg (by simp [bounded']), units, units, ← same, nearestPlace_unitsAt inside]

private theorem isFinite_remainder : isFinite (remainder dividend divisor) = true := by
  obtain ⟨place, inside, -, same⟩ := exists_remainder_eq finite finite' nonzero
  rw [same, isFinite_atPlace_iff _ inside.le]
  exact inside

theorem isNegative_remainder : isNegative (remainder dividend divisor) = isNegative dividend := by
  obtain ⟨place, inside, -, same⟩ := exists_remainder_eq finite finite' nonzero
  rw [same, isNegative_atPlace _ inside.le]

theorem units_remainder : units (remainder dividend divisor) = units dividend % units divisor := by
  obtain ⟨place, inside, counted, same⟩ := exists_remainder_eq finite finite' nonzero
  rw [same, units, place_atPlace _ inside.le, counted]

end

/-- The whole number that is left of a rational when its fraction is cut off. -/
def truncate (exact : ℚ) : ℤ := if exact < 0 then ⌈exact⌉ else ⌊exact⌋

private theorem truncate_withSign (negative : Bool) {size : ℚ} (nonneg : 0 ≤ size) :
    (truncate (withSign negative size) : ℚ) = withSign negative ⌊size⌋ := by
  cases negative with
  | false =>
    change (truncate size : ℚ) = ⌊size⌋
    rw [truncate, if_neg nonneg.not_gt]
  | true =>
    change (truncate (-size) : ℚ) = -⌊size⌋
    rcases nonneg.eq_or_lt with rfl | positive
    · simp [truncate]
    · rw [truncate, if_pos (neg_neg_of_pos positive), Int.ceil_neg, Int.cast_neg]

/-- The quotient of two numbers is that of their units, cut off by the division of counts. -/
theorem truncate_div (dividend divisor : Float) :
    (truncate (value dividend / value divisor) : ℚ) =
      withSign (isNegative divisor ^^ isNegative dividend)
        (units dividend / units divisor : ℕ) := by
  have quotient : magnitude dividend / magnitude divisor = (units dividend : ℚ) / units divisor :=
    div_div_div_cancel_right₀ cast_oneUnits_pos.ne' _ _
  have nonneg : (0 : ℚ) ≤ (units dividend : ℚ) / units divisor := by positivity
  rw [value, value, withSign_div_withSign, quotient, truncate_withSign _ nonneg,
    Rat.floor_natCast_div_natCast]
  rfl

section

variable {dividend divisor : Float} (finite : isFinite dividend = true)
  (finite' : isFinite divisor = true) (nonzero : 0 < units divisor)

include finite finite' nonzero

/-- The remainder is what the rationals have left when their quotient is cut off towards zero. -/
theorem value_remainder : value (remainder dividend divisor) =
    value dividend - value divisor * truncate (value dividend / value divisor) := by
  have whole : (units divisor * (units dividend / units divisor) + units dividend % units divisor : ℕ) =
      (units dividend : ℚ) := by
    rw [Nat.div_add_mod]
  push_cast at whole
  have left : ((units dividend % units divisor : ℕ) : ℚ) / oneUnits =
      magnitude dividend - magnitude divisor * (units dividend / units divisor : ℕ) := by
    rw [magnitude, magnitude, div_mul_eq_mul_div, ← sub_div, ← whole]
    ring
  rw [truncate_div, value, isNegative_remainder finite finite' nonzero, magnitude,
    units_remainder finite finite' nonzero, left, ← withSign_sub, value, value, withSign_mul_withSign]

private theorem abs_value_remainder_lt :
    |value (remainder dividend divisor)| < |value divisor| := by
  rw [abs_value, abs_value, magnitude, magnitude, units_remainder finite finite' nonzero,
    div_lt_div_iff_of_pos_right cast_oneUnits_pos]
  exact_mod_cast Nat.mod_lt _ nonzero

private theorem sign_value_remainder : value (remainder dividend divisor) = 0 ∨
    SignType.sign (value (remainder dividend divisor)) = SignType.sign (value dividend) := by
  rcases (magnitude_nonneg (remainder dividend divisor)).eq_or_lt with none | positive
  · left
    rw [value, ← none, withSign_zero]
  · right
    have less : units (remainder dividend divisor) ≤ units dividend := by
      rw [units_remainder finite finite' nonzero]
      exact Nat.mod_le _ _
    have smaller : magnitude (remainder dividend divisor) ≤ magnitude dividend :=
      div_le_div_of_nonneg_right (by exact_mod_cast less) cast_oneUnits_pos.le
    rw [value, value, isNegative_remainder finite finite' nonzero, sign_withSign _ positive,
      sign_withSign _ (positive.trans_le smaller)]

end

end FlatSheet.Binary64

namespace FlatSheet.Builtin

open Binary64

/-- The remainder of finite numbers is exactly what is left of the dividend after as many divisors as
fit into it, whatever the exponents of the two. It is smaller than the divisor, and it is zero or on
the same side of zero as the dividend, whose sign a zero keeps. By a zero of either sign there is no
remainder, whatever the dividend. -/
theorem apply_mod_exact (dividend divisor : Float) (population : ℕ) :
    (isFinite dividend = true → isFinite divisor = true → divisor ≠ 0 → divisor ≠ -0 →
      ∃ result, mod.apply [dividend, divisor] population = .ok result ∧ isFinite result = true ∧
        value result = value dividend - value divisor * truncate (value dividend / value divisor) ∧
        |value result| < |value divisor| ∧
        (value result = 0 ∨ SignType.sign (value result) = SignType.sign (value dividend)) ∧
        isNegative result = isNegative dividend) ∧
    (divisor = 0 ∨ divisor = -0 →
      mod.apply [dividend, divisor] population = .error (.divisionByZero .mod)) := by
  constructor
  · intro finite finite' nonzero nonzero'
    have units_pos : 0 < units divisor := by
      apply Nat.pos_of_ne_zero
      rw [ne_eq, units_eq_zero_iff]
      exact not_or.mpr ⟨nonzero, nonzero'⟩
    have divides : ¬(divisor == 0) = true := by
      rw [beq_zero_iff]
      exact not_or.mpr ⟨nonzero, nonzero'⟩
    refine ⟨remainder dividend divisor, if_neg divides, isFinite_remainder finite finite' units_pos,
      value_remainder finite finite' units_pos, abs_value_remainder_lt finite finite' units_pos,
      sign_value_remainder finite finite' units_pos, isNegative_remainder finite finite' units_pos⟩
  · intro zero
    exact if_pos ((beq_zero_iff divisor).mpr zero)

/-- The quotient of the largest number and three of the smallest units has over six hundred digits,
and two of those units are left. A remainder of zero keeps the sign of a negative dividend, and a
negative zero divides nothing. -/
theorem apply_mod_exact_extremes :
    let largest := atPlace true (topPlace - 1)
    let small := atPlace false 3
    isFinite largest = true ∧ isFinite small = true ∧ small ≠ 0 ∧ small ≠ -0 ∧
      mod.apply [largest, small] 0 = .ok (atPlace true 2) ∧
      value (atPlace true 2) =
        value largest - value small * truncate (value largest / value small) ∧
      |value (atPlace true 2)| < |value small| ∧
      mod.apply [-4, 2] 1 = .ok (-0) ∧ isNegative (-0) = isNegative (-4) ∧
      mod.apply [nan, -0] 2 = .error (.divisionByZero .mod) := by
  intro largest small
  have finite : isFinite largest = true := by decide +kernel
  have finite' : isFinite small = true := by decide +kernel
  have nonzero : small ≠ 0 := by decide +kernel
  have nonzero' : small ≠ -0 := by decide +kernel
  have left : mod.apply [largest, small] 0 = .ok (atPlace true 2) := by decide +kernel
  have none : mod.apply [-4, 2] 1 = .ok (-0) := by decide +kernel
  obtain ⟨result, applied, -, exact, smaller, -, -⟩ :=
    (apply_mod_exact largest small 0).1 finite finite' nonzero nonzero'
  obtain rfl := Except.ok.inj (left.symm.trans applied)
  obtain ⟨zero, applied', -, -, -, -, sign⟩ := (apply_mod_exact (-4) 2 1).1 (by decide +kernel)
    (by decide +kernel) (by decide +kernel) (by decide +kernel)
  obtain rfl := Except.ok.inj (none.symm.trans applied')
  exact ⟨finite, finite', nonzero, nonzero', left, exact, smaller, none, sign,
    (apply_mod_exact nan (-0) 2).2 (.inr rfl)⟩

end FlatSheet.Builtin
