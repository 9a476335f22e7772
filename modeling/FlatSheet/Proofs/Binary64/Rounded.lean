import FlatSheet.Proofs.Binary64.Value

/-! # What a rational is rounded to

A rational below the overflow is rounded to a finite number to which no other is nearer, and to one
with an even place where another number is as near. Only the sign of a zero is left open by that: a
rational and a sign have one number that they are rounded to. It is the rational itself wherever
that is a number at all, so counts up to the power of two from which the odd ones are missing are
kept as they are.
-/

namespace FlatSheet.Binary64

/-- A rational from the overflow on is rounded to no finite number. Any other is rounded to a number
that none is nearer than, and a number with the same distance only comes after one whose place, and
with it the last digit of the significand, is even. -/
structure IsRounded (exact : ℚ) (number : Float) : Prop where
  inside : |exact| < overflow
  finite : isFinite number = true
  nearest : ∀ other, isFinite other = true → |exact - value number| ≤ |exact - value other|
  even : ∀ other, isFinite other = true → |exact - value other| = |exact - value number| →
    value other = value number ∨ Even (place number)

/-- A finite number is its sign and the rational that it is. -/
theorem eq_of_value_eq {first second : Float} (signs : isNegative first = isNegative second)
    (values : value first = value second) : first = second := by
  have sizes : magnitude first = magnitude second := by
    rw [← abs_value, values, abs_value]
  have counts : units first = units second := by
    exact_mod_cast (div_left_inj' cast_oneUnits_pos.ne').mp sizes
  have places : place first = place second := unitsAt_strictMono.injective counts
  rw [← atPlace_place first, ← atPlace_place second, signs, places]

theorem value_atPlace (negative : Bool) {place : ℕ} (known : place ≤ topPlace) :
    value (atPlace negative place) = withSign negative ((unitsAt place : ℚ) / oneUnits) := by
  rw [value, isNegative_atPlace negative known, magnitude, units, place_atPlace negative known]

/-- Another sign does not bring a number nearer. -/
theorem abs_sub_magnitude_le (negative : Bool) {size : ℚ} (nonneg : 0 ≤ size) (number : Float) :
    |size - magnitude number| ≤ |withSign negative size - value number| := by
  have kept : |withSign negative size| = size := abs_withSign negative nonneg
  have distance := abs_abs_sub_abs_le (withSign negative size) (value number)
  rwa [kept, abs_value] at distance

/-- Rationals with different signs are apart by both of their sizes. -/
theorem abs_withSign_sub_of_ne {negative negative' : Bool} (differ : negative' ≠ negative)
    {size other : ℚ} (nonneg : 0 ≤ size) (nonneg' : 0 ≤ other) :
    |withSign negative size - withSign negative' other| = size + other := by
  obtain rfl := Bool.eq_not_of_ne differ
  cases negative with
  | false =>
    change |size - -other| = _
    rw [sub_neg_eq_add, abs_of_nonneg (by linarith)]
  | true =>
    change |-size - other| = _
    rw [← neg_add', abs_neg, abs_of_nonneg (by linarith)]

/-- The nearer one of three points is the middle one when the other two are equally far away. -/
theorem abs_sub_lt_of_between {exact low middle high : ℚ} (above : low < middle) (below : middle < high)
    (tie : |exact - high| = |exact - low|) : |exact - middle| < |exact - low| := by
  have half : exact - low = high - exact := by
    rcases abs_eq_abs.mp tie with same | opposite
    · linarith
    · linarith
  rw [abs_of_pos (by linarith : 0 < exact - low), abs_lt]
  constructor <;> linarith

private theorem abs_sub_withSign_lt_of_between (negative : Bool) {exact low middle high : ℚ}
    (above : low < middle) (below : middle < high)
    (tie : |exact - withSign negative high| = |exact - withSign negative low|) :
    |exact - withSign negative middle| < |exact - withSign negative low| := by
  cases negative with
  | false => exact abs_sub_lt_of_between above below tie
  | true =>
    rw [← tie]
    exact abs_sub_lt_of_between (neg_lt_neg below) (neg_lt_neg above) tie.symm

/-- Two places that are both even are not both nearest: a place between them is nearer. -/
theorem IsRounded.not_lt {exact : ℚ} {first second : Float} (rounded : IsRounded exact first)
    (also : IsRounded exact second) (signs : isNegative first = isNegative second) :
    ¬place first < place second := by
  intro above
  have tie : |exact - value second| = |exact - value first| :=
    le_antisymm (also.nearest first rounded.finite) (rounded.nearest second also.finite)
  have differ : value first ≠ value second := fun same => by
    rw [eq_of_value_eq signs same] at above
    exact Nat.lt_irrefl _ above
  obtain ⟨half, even⟩ := (rounded.even second also.finite tie).resolve_left differ.symm
  obtain ⟨half', even'⟩ := (also.even first rounded.finite tie.symm).resolve_left differ
  have top := place_lt_of_isFinite also.finite
  have known : place first + 1 ≤ topPlace := by omega
  have finite : isFinite (atPlace (isNegative first) (place first + 1)) = true :=
    (isFinite_atPlace_iff _ known).mpr (by omega)
  have inUnits {low high : ℕ} (less : low < high) :
      (unitsAt low : ℚ) / oneUnits < unitsAt high / oneUnits :=
    (div_lt_div_iff_of_pos_right cast_oneUnits_pos).mpr (by exact_mod_cast unitsAt_strictMono less)
  have nearer : |exact - value (atPlace (isNegative first) (place first + 1))| <
      |exact - value first| := by
    rw [value_atPlace _ known]
    rw [value, value, ← signs] at tie
    exact abs_sub_withSign_lt_of_between _ (inUnits (Nat.lt_succ_self _)) (inUnits (by omega)) tie
  exact not_lt_of_ge (rounded.nearest _ finite) nearer

theorem IsRounded.unique {exact : ℚ} {first second : Float} (rounded : IsRounded exact first)
    (also : IsRounded exact second) (signs : isNegative first = isNegative second) :
    first = second := by
  have places : place first = place second :=
    Nat.le_antisymm (Nat.le_of_not_lt (also.not_lt rounded signs.symm))
      (Nat.le_of_not_lt (rounded.not_lt also signs))
  rw [← atPlace_place first, ← atPlace_place second, signs, places]

section

variable (negative : Bool) (numerator : ℕ) {denominator : ℕ} (positive : 0 < denominator)

include positive

theorem isRounded_ofQuotient (inside : (numerator : ℚ) / denominator < overflow) :
    IsRounded (withSign negative ((numerator : ℚ) / denominator))
      (ofQuotient negative numerator denominator) := by
  have nonneg : (0 : ℚ) ≤ (numerator : ℚ) / denominator :=
    div_nonneg numerator.cast_nonneg denominator.cast_nonneg
  have nearest := abs_sub_ofQuotient_le negative numerator positive inside
  have places := isNearestPlace_ofQuotient negative numerator positive inside
  have finite := (isFinite_ofQuotient_iff negative numerator positive).mpr inside
  have sign : isNegative (ofQuotient negative numerator denominator) = negative :=
    isNegative_ofQuotient negative numerator
  generalize (numerator : ℚ) / denominator = size at *
  generalize ofQuotient negative numerator denominator = number at *
  have distance : |withSign negative size - value number| = |size - magnitude number| := by
    rw [value, sign, abs_withSign_sub]
  refine ⟨(abs_withSign negative nonneg).trans_lt inside, finite, fun other _ => ?_,
    fun other _ tie => ?_⟩
  · rw [distance]
    exact (nearest other).trans (abs_sub_magnitude_le negative nonneg other)
  · rw [distance] at tie
    have same : |size - magnitude other| = |size - magnitude number| :=
      le_antisymm ((abs_sub_magnitude_le negative nonneg other).trans_eq tie) (nearest other)
    have inUnits : |size * oneUnits - unitsAt (place other)| =
        |size * oneUnits - unitsAt (place number)| := by
      rw [abs_sub_units, abs_sub_units, same]
    rcases places.even_of_tie _ inUnits with equal | even
    · left
      have magnitudes : magnitude other = magnitude number := by
        rw [magnitude, magnitude, units, units, equal]
      rw [value, value, magnitudes, sign]
      rw [value, magnitudes] at tie
      by_cases signs : isNegative other = negative
      · rw [signs]
      · have zero := nearest 0
        rw [(magnitude_eq_zero_iff 0).mpr (.inl rfl), sub_zero, abs_of_nonneg nonneg, ← tie,
          abs_withSign_sub_of_ne signs nonneg (magnitude_nonneg number)] at zero
        have none : magnitude number = 0 := le_antisymm (by linarith) (magnitude_nonneg number)
        rw [none, withSign_zero, withSign_zero]
    · exact .inr even

end

/-- Where the rational is a number, it is rounded to that number. -/
theorem IsRounded.value_eq {exact : ℚ} {number other : Float} (rounded : IsRounded exact number)
    (finite : isFinite other = true) (same : value other = exact) : value number = exact := by
  have nearest := rounded.nearest other finite
  rw [same, sub_self, abs_zero, abs_nonpos_iff, sub_eq_zero] at nearest
  exact nearest.symm

private theorem exists_unitsAt_eq_mul_two (place : ℕ) :
    ∃ other, unitsAt other = unitsAt place * 2 := by
  obtain ⟨doublings, steps, rfl, upper, within⟩ := exists_steps place
  rw [unitsAt_steps upper within.le]
  by_cases low : steps < binade
  · obtain rfl : doublings = 0 := by omega
    refine ⟨0 * binade + steps * 2, ?_⟩
    rw [unitsAt_steps (.inl rfl) (by omega), Nat.pow_zero, Nat.mul_one, Nat.mul_one]
  · refine ⟨(doublings + 1) * binade + steps, ?_⟩
    rw [unitsAt_steps (.inr (by omega)) within.le, Nat.pow_succ, Nat.mul_assoc]

/-- Counts of 53 binary digits can be doubled as often as one likes. -/
theorem exists_unitsAt_eq_mul {count unit : ℕ} (small : count ≤ 2 ^ 53) (power : unit.isPowerOfTwo) :
    ∃ place, unitsAt place = count * unit := by
  obtain ⟨doublings, rfl⟩ := power
  induction doublings with
  | zero => exact ⟨0 * binade + count, unitsAt_steps (.inl rfl) small⟩
  | succ doublings ih =>
    obtain ⟨place, units⟩ := ih
    obtain ⟨other, twice⟩ := exists_unitsAt_eq_mul_two place
    exact ⟨other, by rw [twice, units, Nat.pow_succ, Nat.mul_assoc]⟩

private theorem isPowerOfTwo_oneUnits : oneUnits.isPowerOfTwo := ⟨1074, by decide +kernel⟩

/-- Counts of 53 binary digits are numbers. -/
theorem exists_value_eq_withSign (negative : Bool) {count : ℕ} (small : count ≤ 2 ^ 53) :
    ∃ number, isFinite number = true ∧ value number = withSign negative count := by
  obtain ⟨place, units⟩ := exists_unitsAt_eq_mul small isPowerOfTwo_oneUnits
  have below : unitsAt place < unitsAt topPlace := by
    rw [units]
    exact (Nat.mul_le_mul_right _ small).trans_lt (by decide +kernel)
  have inside : place < topPlace := unitsAt_strictMono.lt_iff_lt.mp below
  refine ⟨atPlace negative place, (isFinite_atPlace_iff _ inside.le).mpr inside, ?_⟩
  rw [value_atPlace _ inside.le, units, Nat.cast_mul,
    mul_div_cancel_right₀ _ cast_oneUnits_pos.ne']

end FlatSheet.Binary64
