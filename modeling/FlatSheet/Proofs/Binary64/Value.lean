import FlatSheet.Proofs.Binary64.Rounding

/-! # Numbers as rationals

A finite number is a rational: its count of units over the units of one, negated when its sign is
set. It is a whole number exactly when its units are a multiple of those of one. A quotient below the
overflow is rounded to a finite number, and no other number is nearer.
-/

namespace FlatSheet.Binary64

/-- A rational with a sign. -/
def withSign (negative : Bool) (size : ℚ) : ℚ := if negative then -size else size

/-- The magnitude of a finite number. -/
def magnitude (number : Float) : ℚ := units number / oneUnits

/-- The rational that a finite number is. -/
def value (number : Float) : ℚ := withSign (isNegative number) (magnitude number)

variable (negative : Bool) (size other : ℚ)

theorem withSign_zero : withSign negative 0 = 0 := by
  cases negative <;> simp [withSign]

theorem withSign_mul : withSign negative (size * other) = withSign negative size * other := by
  cases negative <;> simp [withSign]

theorem abs_withSign_sub :
    |withSign negative size - withSign negative other| = |size - other| := by
  cases negative with
  | false => rfl
  | true =>
    rw [← abs_neg (size - other)]
    congr 1
    change -size - -other = _
    ring

theorem withSign_sub :
    withSign negative size - withSign negative other = withSign negative (size - other) := by
  cases negative with
  | false => rfl
  | true =>
    change -size - -other = -(size - other)
    ring

/-- Signs multiply as exclusive alternatives. -/
theorem withSign_mul_withSign (negative' : Bool) :
    withSign negative' other * withSign (negative' ^^ negative) size =
      withSign negative (other * size) := by
  cases negative <;> cases negative' <;> simp [withSign]

theorem withSign_div_withSign (negative' : Bool) :
    withSign negative size / withSign negative' other =
      withSign (negative' ^^ negative) (size / other) := by
  cases negative <;> cases negative' <;> simp [withSign, neg_div, div_neg]

theorem cast_oneUnits_pos : (0 : ℚ) < oneUnits := by exact_mod_cast oneUnits_pos

theorem magnitude_nonneg (number : Float) : 0 ≤ magnitude number := by
  rw [magnitude]
  positivity

theorem magnitude_eq_zero_iff (number : Float) : magnitude number = 0 ↔ number = 0 ∨ number = -0 := by
  rw [← units_eq_zero_iff, magnitude, div_eq_zero_iff, or_iff_left cast_oneUnits_pos.ne',
    Nat.cast_eq_zero]

theorem abs_withSign {size : ℚ} (nonneg : 0 ≤ size) : |withSign negative size| = size := by
  cases negative <;> simp [withSign, abs_of_nonneg nonneg]

theorem sign_withSign {size : ℚ} (positive : 0 < size) :
    SignType.sign (withSign negative size) = if negative then -1 else 1 := by
  cases negative with
  | false => exact sign_pos positive
  | true => exact sign_neg (neg_neg_of_pos positive)

theorem abs_value (number : Float) : |value number| = magnitude number :=
  abs_withSign _ (magnitude_nonneg number)

/-- Distances in units are the distances between the magnitudes, in units of one. -/
theorem abs_sub_units (number : Float) :
    |size * oneUnits - unitsAt (place number)| = |size - magnitude number| * oneUnits := by
  rw [← abs_mul_sub_mul cast_oneUnits_pos, magnitude, div_mul_cancel₀ _ cast_oneUnits_pos.ne', units]

theorem magnitude_of_units {number : Float} {count : ℕ} (whole : units number = count * oneUnits) :
    magnitude number = count := by
  rw [magnitude, whole, Nat.cast_mul, mul_div_cancel_right₀ _ cast_oneUnits_pos.ne']

/-- A finite number is whole exactly when it is an integer as a rational. -/
theorem isWhole_iff {number : Float} (finite : isFinite number = true) :
    IsWhole number ↔ ∃ count : ℤ, value number = count := by
  constructor
  · rintro ⟨-, count, counted⟩
    rw [Nat.mul_comm] at counted
    rw [value, magnitude_of_units counted]
    cases isNegative number with
    | false => exact ⟨count, by simp [withSign]⟩
    | true => exact ⟨-count, by simp [withSign]⟩
  · rintro ⟨count, same⟩
    have size : magnitude number = count.natAbs := by
      rw [← abs_withSign (isNegative number) (magnitude_nonneg number), ← value, same,
        Nat.cast_natAbs, Int.cast_abs]
    rw [magnitude, div_eq_iff cast_oneUnits_pos.ne'] at size
    exact ⟨finite, count.natAbs, by rw [Nat.mul_comm]; exact_mod_cast size⟩

/-- Whole numbers nearest to opposite values are opposite. -/
theorem IsNearestEven.withSign {size : ℚ} {count : ℤ} (nearest : IsNearestEven size count) :
    IsNearestEven (withSign negative size) (if negative then -count else count) := by
  have signed : ((if negative then -count else count : ℤ) : ℚ) = Binary64.withSign negative count := by
    cases negative with
    | false => rfl
    | true => exact Int.cast_neg count
  have same : |Binary64.withSign negative size - (if negative then -count else count : ℤ)| =
      |size - count| := by
    rw [signed, abs_withSign_sub]
  constructor
  · exact same.trans_le nearest.near
  · intro half
    have even := nearest.even (same.symm.trans half)
    cases negative with
    | false => exact even
    | true => exact even.neg

/-- The largest finite number is far below the overflow. -/
theorem magnitude_add_one_le {number : Float} (finite : isFinite number = true) :
    magnitude number + 1 ≤ overflow := by
  have last : units number ≤ unitsAt (topPlace - 1) :=
    unitsAt_strictMono.monotone (Nat.le_sub_one_of_lt (place_lt_of_isFinite finite))
  have room : unitsAt (topPlace - 1) + oneUnits ≤ overflow * oneUnits := by decide +kernel
  have total : units number + oneUnits ≤ overflow * oneUnits :=
    (Nat.add_le_add_right last oneUnits).trans room
  rw [magnitude, div_add_one cast_oneUnits_pos.ne', div_le_iff₀ cast_oneUnits_pos]
  exact_mod_cast total

section

variable (numerator : ℕ) {denominator : ℕ}

theorem isNegative_ofQuotient : isNegative (ofQuotient negative numerator denominator) = negative :=
  isNegative_atPlace negative (nearestPlace_le_topPlace _ _)

variable (positive : 0 < denominator)

include positive

theorem isFinite_ofQuotient_iff : isFinite (ofQuotient negative numerator denominator) = true ↔
    (numerator : ℚ) / denominator < overflow := by
  rw [ofQuotient, isFinite_atPlace_iff negative (nearestPlace_le_topPlace _ _),
    nearestPlace_lt_topPlace_iff _ positive, Nat.cast_mul, Nat.cast_mul, mul_div_right_comm,
    mul_lt_mul_iff_left₀ cast_oneUnits_pos]

/-- A quotient from the overflow on is rounded to infinity. -/
theorem ofQuotient_of_overflow (beyond : (overflow : ℚ) ≤ numerator / denominator) :
    ofQuotient negative numerator denominator = infinity negative := by
  have infinite : ¬isFinite (ofQuotient negative numerator denominator) = true := by
    rw [isFinite_ofQuotient_iff negative numerator positive]
    exact not_lt_of_ge beyond
  rw [ofQuotient, isFinite_atPlace_iff negative (nearestPlace_le_topPlace _ _)] at infinite
  rw [ofQuotient, infinity,
    Nat.le_antisymm (nearestPlace_le_topPlace _ _) (Nat.le_of_not_lt infinite)]

/-- A quotient is rounded to the place that is nearest to its units. -/
theorem isNearestPlace_ofQuotient (inside : (numerator : ℚ) / denominator < overflow) :
    IsNearestPlace ((numerator : ℚ) / denominator * oneUnits)
      (place (ofQuotient negative numerator denominator)) := by
  have finite : nearestPlace (numerator * oneUnits) denominator < topPlace := by
    rw [← isFinite_atPlace_iff negative (nearestPlace_le_topPlace _ _)]
    exact (isFinite_ofQuotient_iff negative numerator positive).mpr inside
  have nearest := isNearestPlace_nearestPlace positive finite
  rw [Nat.cast_mul, mul_div_right_comm] at nearest
  rwa [ofQuotient, place_atPlace negative (nearestPlace_le_topPlace _ _)]

/-- No number is nearer to a quotient than the finite one that it is rounded to. -/
theorem abs_sub_ofQuotient_le (inside : (numerator : ℚ) / denominator < overflow) (number : Float) :
    |(numerator : ℚ) / denominator - magnitude (ofQuotient negative numerator denominator)| ≤
      |(numerator : ℚ) / denominator - magnitude number| := by
  have nearer := (isNearestPlace_ofQuotient negative numerator positive inside).le (place number)
  rw [abs_sub_units, abs_sub_units] at nearer
  exact le_of_mul_le_mul_right nearer cast_oneUnits_pos

end

end FlatSheet.Binary64
