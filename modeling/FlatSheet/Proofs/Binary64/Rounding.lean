import FlatSheet.Proofs.Binary64.Basic
import FlatSheet.Proofs.Binary64.Nearest

/-! # Numbers that need no rounding

The units of a finite number round to its place. So a finite number is known from its sign and its
units, and a whole number from its sign and the count that it is, however large that is.
-/

namespace FlatSheet.Binary64

/-- A quotient without a remainder needs no rounding. -/
theorem nearestEven_mul (count : Nat) {unit : Nat} (positive : 0 < unit) :
    nearestEven (count * unit) unit = count := by
  rw [nearestEven, Nat.mul_div_cancel _ positive, Nat.mul_mod_left]
  exact if_pos positive

/-- The units at a place round to that place. -/
theorem nearestPlace_unitsAt {place : Nat} (finite : place < topPlace) :
    nearestPlace (unitsAt place) 1 = place := by
  have nearest := isNearestPlace_unboundedPlace (unitsAt place) Nat.one_pos
  rw [Nat.cast_one, div_one] at nearest
  rw [nearestPlace_eq, nearest.eq_of_unitsAt, Nat.min_eq_right finite.le]

theorem nearestPlace_zero (denominator : Nat) : nearestPlace 0 denominator = 0 := by
  simp [nearestPlace, nearestEven]

/-- A quotient below half of a unit is rounded to zero. -/
theorem nearestPlace_of_lt {numerator denominator : Nat} (small : 2 * numerator < denominator) :
    nearestPlace numerator denominator = 0 := by
  have quotient : numerator / denominator = 0 := Nat.div_eq_of_lt (by omega)
  have rest : numerator % denominator = numerator := Nat.mod_eq_of_lt (by omega)
  simp [nearestPlace, nearestEven, quotient, rest, small]

theorem oneUnits_pos : 0 < oneUnits := by decide +kernel

/-- A finite number without a fraction. -/
structure IsWhole (number : Float) : Prop where
  finite : isFinite number = true
  whole : oneUnits ∣ units number

instance : DecidablePred IsWhole := fun number =>
  decidable_of_iff (isFinite number = true ∧ oneUnits ∣ units number)
    ⟨fun ⟨finite, whole⟩ => ⟨finite, whole⟩, fun ⟨finite, whole⟩ => ⟨finite, whole⟩⟩

/-- The same number, with the sign taken off a zero. -/
def unsignedZero (number : Float) : Float := if number = -0 then 0 else number

theorem place_lt_of_isFinite {number : Float} (finite : isFinite number = true) :
    place number < topPlace := by
  simpa [isFinite] using finite

theorem isNaN_of_isFinite {number : Float} (finite : isFinite number = true) :
    isNaN number = false := by
  simpa [isNaN] using (place_lt_of_isFinite finite).le

theorem isInfinite_of_isFinite {number : Float} (finite : isFinite number = true) :
    isInfinite number = false := by
  simpa [isInfinite] using (place_lt_of_isFinite finite).ne

/-- A finite number is found again from its sign and the count that it is. -/
theorem ofQuotient_of_units {number : Float} (finite : isFinite number = true) {count : Nat}
    (whole : units number = count * oneUnits) : ofQuotient (isNegative number) count 1 = number := by
  rw [ofQuotient, ← whole, units, nearestPlace_unitsAt (place_lt_of_isFinite finite), atPlace_place]

/-- Only the two zeros have no units. -/
theorem units_eq_zero_iff (number : Float) : units number = 0 ↔ number = 0 ∨ number = -0 := by
  constructor
  · intro none
    have atZero : place number = 0 := unitsAt_strictMono.injective none
    rw [← atPlace_place number, atZero]
    cases isNegative number with
    | true => exact .inr (by decide +kernel)
    | false => exact .inl (by decide +kernel)
  · rintro (rfl | rfl) <;> decide +kernel

end FlatSheet.Binary64
