import FlatSheet.Binary64.Rounding
import Mathlib

/-! # Nearest whole numbers and nearest places

Rounding a quotient takes the nearest whole number, and of two equally near ones the even one. The
place of a quotient is found on the grid of its own binade. The magnitudes above that binade lie on
the same grid, and those below it are further away than the lowest magnitude of the binade, so no
magnitude at all is nearer than the one that is found.
-/

namespace FlatSheet.Binary64

/-- The same distance in another unit. -/
theorem abs_mul_sub_mul {unit : ℚ} (positive : 0 < unit) (first second : ℚ) :
    |first * unit - second * unit| = |first - second| * unit := by
  rw [← sub_mul, abs_mul, abs_of_pos positive]

/-- No whole number is nearer to the value, and of two equally near ones this is the even one. -/
structure IsNearestEven (value : ℚ) (count : ℤ) : Prop where
  near : |value - count| ≤ 1 / 2
  even : |value - count| = 1 / 2 → Even count

section

variable {value : ℚ} {count : ℤ}

theorem dist_le_add_dist (value : ℚ) (count other : ℤ) :
    |(count : ℚ) - other| ≤ |value - count| + |value - other| := by
  rw [abs_sub_comm value count]
  exact abs_sub_le _ _ _

/-- Different whole numbers are at least one apart. -/
theorem one_le_add_dist (value : ℚ) {count other : ℤ} (differ : count ≠ other) :
    1 ≤ |value - count| + |value - other| := by
  have apart : 1 ≤ |count - other| := Int.one_le_abs (sub_ne_zero.mpr differ)
  exact (by exact_mod_cast apart : (1 : ℚ) ≤ _).trans (dist_le_add_dist value count other)

theorem IsNearestEven.le (nearest : IsNearestEven value count) (other : ℤ) :
    |value - count| ≤ |value - other| := by
  by_cases same : count = other
  · rw [same]
  · linarith [nearest.near, one_le_add_dist value same]

theorem IsNearestEven.even_of_tie (nearest : IsNearestEven value count) {other : ℤ}
    (differ : count ≠ other) (tie : |value - other| = |value - count|) : Even count := by
  apply nearest.even
  linarith [nearest.near, one_le_add_dist value differ]

theorem IsNearestEven.unique (nearest : IsNearestEven value count) {other : ℤ}
    (also : IsNearestEven value other) : count = other := by
  by_contra differ
  have tie : |value - other| = |value - count| := le_antisymm (also.le count) (nearest.le other)
  have first := nearest.even_of_tie differ tie
  have second := also.even_of_tie (Ne.symm differ) tie.symm
  have close : |(count : ℚ) - other| ≤ 1 := by
    linarith [dist_le_add_dist value count other, nearest.near, also.near]
  have whole : |count - other| ≤ 1 := by exact_mod_cast close
  rw [abs_le] at whole
  obtain ⟨half, rfl⟩ := first
  obtain ⟨half', rfl⟩ := second
  omega

/-- Rounding does not go below a whole number that is not above the value. -/
theorem IsNearestEven.ge_of_le (nearest : IsNearestEven value count) {bound : ℤ}
    (low : (bound : ℚ) ≤ value) : bound ≤ count := by
  by_contra below
  have next : ((count + 1 : ℤ) : ℚ) ≤ bound := by exact_mod_cast Int.lt_of_not_ge below
  push_cast at next
  linarith [nearest.near, le_abs_self (value - count)]

/-- Rounding does not go above a whole number that is not below the value. -/
theorem IsNearestEven.le_of_le (nearest : IsNearestEven value count) {bound : ℤ}
    (high : value ≤ bound) : count ≤ bound := by
  by_contra above
  have next : ((bound + 1 : ℤ) : ℚ) ≤ count := by exact_mod_cast Int.lt_of_not_ge above
  push_cast at next
  linarith [nearest.near, neg_le_abs (value - count)]

/-- Another value that is not farther away has the same nearest whole number. -/
theorem IsNearestEven.of_dist_le (nearest : IsNearestEven value count) {other : ℚ}
    (closer : |other - count| ≤ |value - count|) : IsNearestEven other count where
  near := closer.trans nearest.near
  even half := nearest.even (le_antisymm nearest.near (half.symm.trans_le closer))

private theorem isNearestEven_of_lt (inside : |value - count| < 1 / 2) :
    IsNearestEven value count :=
  ⟨inside.le, fun half => absurd half inside.ne⟩

end

/-- A quotient is its whole part and a fraction below one. -/
theorem cast_div_eq (numerator : ℕ) {denominator : ℕ} (positive : 0 < denominator) :
    (numerator : ℚ) / denominator = (numerator / denominator : ℕ) +
      ((numerator % denominator : ℕ) : ℚ) / denominator := by
  have unit : (denominator : ℚ) ≠ 0 := by exact_mod_cast positive.ne'
  field_simp
  exact_mod_cast (Nat.div_add_mod numerator denominator).symm

/-- Rounding a quotient is to the nearest whole number. -/
theorem isNearestEven_nearestEven (numerator : ℕ) {denominator : ℕ} (positive : 0 < denominator) :
    IsNearestEven ((numerator : ℚ) / denominator) (nearestEven numerator denominator) := by
  have unit : (0 : ℚ) < denominator := by exact_mod_cast positive
  have below := Nat.mod_lt numerator positive
  rw [cast_div_eq numerator positive, nearestEven]
  generalize numerator / denominator = quotient
  generalize numerator % denominator = remainder at below
  have low : (0 : ℚ) ≤ remainder / denominator := by positivity
  have high : (remainder : ℚ) / denominator < 1 := by
    rw [div_lt_one unit]
    exact_mod_cast below
  split_ifs with lower upper
  · have small : (remainder : ℚ) / denominator < 1 / 2 := by
      rw [div_lt_iff₀ unit]
      have := (by exact_mod_cast lower : (2 : ℚ) * remainder < denominator)
      linarith
    apply isNearestEven_of_lt
    rwa [Int.cast_natCast, add_sub_cancel_left, abs_of_nonneg low]
  · have large : 1 / 2 < (remainder : ℚ) / denominator := by
      rw [lt_div_iff₀ unit]
      have := (by exact_mod_cast upper : (denominator : ℚ) < 2 * remainder)
      linarith
    apply isNearestEven_of_lt
    rw [Int.cast_natCast, Nat.cast_succ, add_sub_add_left_eq_sub, abs_sub_lt_iff]
    constructor <;> linarith
  · have tie : (remainder : ℚ) / denominator = 1 / 2 := by
      rw [div_eq_iff unit.ne']
      have := (by exact_mod_cast (by omega : denominator = 2 * remainder) :
        (denominator : ℚ) = 2 * remainder)
      linarith
    refine ⟨?_, fun _ => ?_⟩
    · rw [tie, Int.cast_natCast, Nat.cast_add, add_sub_add_left_eq_sub]
      rcases Nat.mod_two_eq_zero_or_one quotient with none | one
      · norm_num [none]
      · norm_num [one]
    · rw [Int.even_coe_nat, Nat.even_add, Nat.even_iff, Nat.even_iff, Nat.mod_mod]

theorem binade_pos : 0 < binade := by decide

/-- From the second binade on, a magnitude is the leading bit and the fraction, doubled. -/
theorem unitsAt_binade (doublings : ℕ) {fraction : ℕ} (inside : fraction < binade) :
    unitsAt ((doublings + 1) * binade + fraction) = (binade + fraction) * 2 ^ doublings := by
  have outside : ¬(doublings + 1) * binade + fraction < binade := by
    rw [Nat.succ_mul]
    omega
  rw [unitsAt, if_neg outside, Nat.mul_add_mod_of_lt inside, Nat.mul_comm, Nat.mul_add_div binade_pos,
    Nat.div_eq_of_lt inside, Nat.shiftLeft_eq]
  rfl

/-- A place is a count of binades and steps above it. Up to two binades of steps are multiples of one
power of two. -/
theorem unitsAt_steps {doublings steps : ℕ} (upper : doublings = 0 ∨ binade ≤ steps)
    (within : steps ≤ 2 * binade) : unitsAt (doublings * binade + steps) = steps * 2 ^ doublings := by
  by_cases low : steps < binade
  · obtain rfl : doublings = 0 := by omega
    rw [Nat.zero_mul, Nat.zero_add, unitsAt, if_pos low, Nat.pow_zero, Nat.mul_one]
  · by_cases top : steps = 2 * binade
    · have next := unitsAt_binade (doublings + 1) binade_pos
      rw [Nat.add_zero, Nat.add_zero, Nat.pow_succ] at next
      rw [top, ← Nat.add_mul, next]
      ring
    · have inside := unitsAt_binade doublings (by omega : steps - binade < binade)
      rw [Nat.add_sub_of_le (by omega)] at inside
      rw [← inside, Nat.succ_mul, Nat.add_assoc, Nat.add_sub_of_le (by omega)]

/-- Every place is on the grid of its own binade. -/
theorem exists_steps (place : ℕ) : ∃ doublings steps : ℕ,
    place = doublings * binade + steps ∧ (doublings = 0 ∨ binade ≤ steps) ∧ steps < 2 * binade := by
  have inside : place % binade < binade := Nat.mod_lt place binade_pos
  have whole : place / binade * binade + place % binade = place := Nat.div_add_mod' place binade
  cases quotient : place / binade with
  | zero => exact ⟨0, place, by simp, .inl rfl, by rw [quotient] at whole; omega⟩
  | succ doublings =>
    rw [quotient, Nat.succ_mul] at whole
    exact ⟨doublings, binade + place % binade, by omega, .inr (by omega), by omega⟩

/-- A higher place has more units. -/
theorem unitsAt_strictMono : StrictMono unitsAt := by
  refine strictMono_nat_of_lt_succ fun place => ?_
  obtain ⟨doublings, steps, rfl, upper, within⟩ := exists_steps place
  rw [Nat.add_assoc, unitsAt_steps upper within.le, unitsAt_steps (by omega) within]
  exact Nat.mul_lt_mul_of_pos_right steps.lt_succ_self (Nat.two_pow_pos doublings)

/-- The place nearest to a quotient of units where there is no largest one. -/
def unboundedPlace (numerator denominator : ℕ) : ℕ :=
  let doublings := (numerator / denominator).log2 - 52
  doublings * binade + nearestEven numerator (denominator <<< doublings)

theorem nearestPlace_eq (numerator denominator : ℕ) :
    nearestPlace numerator denominator = min topPlace (unboundedPlace numerator denominator) := rfl

theorem nearestPlace_le_topPlace (numerator denominator : ℕ) :
    nearestPlace numerator denominator ≤ topPlace := Nat.min_le_left _ _

/-- No magnitude is nearer to a value in units, and of two equally near ones this has an even place. -/
structure IsNearestPlace (value : ℚ) (place : ℕ) : Prop where
  le : ∀ other, |value - unitsAt place| ≤ |value - unitsAt other|
  even_of_tie : ∀ other, |value - unitsAt other| = |value - unitsAt place| → place = other ∨ Even place

/-- A magnitude is on the grid of a binade or below the lowest magnitude of that binade. -/
theorem exists_unitsAt_eq_or_lt (doublings place : ℕ) :
    (∃ steps : ℕ, unitsAt place = steps * 2 ^ doublings) ∨
      doublings ≠ 0 ∧ unitsAt place < binade * 2 ^ doublings := by
  obtain ⟨own, steps, rfl, upper, within⟩ := exists_steps place
  by_cases above : doublings ≤ own
  · left
    obtain ⟨more, rfl⟩ := Nat.exists_eq_add_of_le above
    refine ⟨steps * 2 ^ more, ?_⟩
    rw [unitsAt_steps upper within.le, Nat.pow_add]
    ring
  · right
    have lowest : unitsAt (doublings * binade + binade) = binade * 2 ^ doublings :=
      unitsAt_steps (.inr le_rfl) (by omega)
    refine ⟨by omega, ?_⟩
    rw [← lowest]
    apply unitsAt_strictMono
    calc
      own * binade + steps < (own + 1) * binade + binade := by
        rw [Nat.succ_mul]
        omega
      _ ≤ doublings * binade + binade :=
        Nat.add_le_add_right (Nat.mul_le_mul_right _ (by omega)) _

/-- A value that is rounded on the grid of its binade is rounded to the nearest place. -/
theorem isNearestPlace_steps {value : ℚ} {doublings steps : ℕ}
    (nearest : IsNearestEven (value / 2 ^ doublings) steps)
    (low : doublings = 0 ∨ (binade : ℚ) ≤ value / 2 ^ doublings)
    (high : value / 2 ^ doublings ≤ (2 * binade : ℕ)) :
    IsNearestPlace value (doublings * binade + steps) := by
  have unit : (0 : ℚ) < 2 ^ doublings := by positivity
  have upper : doublings = 0 ∨ binade ≤ steps := low.imp_right fun reach =>
    Int.ofNat_le.mp (nearest.ge_of_le (by exact_mod_cast reach))
  have units := unitsAt_steps upper (Int.ofNat_le.mp (nearest.le_of_le (by exact_mod_cast high)))
  have scaled (count : ℕ) : |value - (count * 2 ^ doublings : ℕ)| =
      |value / 2 ^ doublings - (count : ℤ)| * 2 ^ doublings := by
    rw [← abs_mul_sub_mul unit, div_mul_cancel₀ _ unit.ne']
    push_cast
    rfl
  have below {other : ℕ} (high' : doublings ≠ 0 ∧ unitsAt other < binade * 2 ^ doublings) :
      |value - unitsAt (doublings * binade + steps)| < |value - unitsAt other| := by
    have inside := low.resolve_left high'.1
    have lowest : (unitsAt other : ℚ) < (binade * 2 ^ doublings : ℕ) := by exact_mod_cast high'.2
    have reach : ((binade * 2 ^ doublings : ℕ) : ℚ) ≤ value := by
      rw [le_div_iff₀ unit] at inside
      exact_mod_cast inside
    calc
      |value - unitsAt (doublings * binade + steps)| ≤ |value - (binade * 2 ^ doublings : ℕ)| := by
        rw [units, scaled, scaled]
        exact mul_le_mul_of_nonneg_right (nearest.le binade) unit.le
      _ < |value - unitsAt other| := by
        rw [abs_of_nonneg (by linarith), abs_of_nonneg (by linarith)]
        linarith
  constructor
  · intro other
    rcases exists_unitsAt_eq_or_lt doublings other with ⟨count, onGrid⟩ | small
    · rw [units, onGrid, scaled, scaled]
      exact mul_le_mul_of_nonneg_right (nearest.le count) unit.le
    · exact (below small).le
  · intro other tie
    rcases exists_unitsAt_eq_or_lt doublings other with ⟨count, onGrid⟩ | small
    · by_cases same : steps = count
      · left
        apply unitsAt_strictMono.injective
        rw [units, onGrid, same]
      · right
        rw [units, onGrid, scaled, scaled] at tie
        have even := nearest.even_of_tie (mt Int.ofNat_inj.mp same) (mul_right_cancel₀ unit.ne' tie)
        exact (Even.mul_left (by decide : Even binade) doublings).add ((Int.even_coe_nat steps).mp even)
    · exact absurd tie (below small).ne'

/-- Without a largest place, rounding a quotient is to the nearest place. -/
theorem isNearestPlace_unboundedPlace (numerator : ℕ) {denominator : ℕ} (positive : 0 < denominator) :
    IsNearestPlace ((numerator : ℚ) / denominator) (unboundedPlace numerator denominator) := by
  have quotient := cast_div_eq numerator positive
  have fraction : ((numerator % denominator : ℕ) : ℚ) / denominator < 1 := by
    rw [div_lt_one (by exact_mod_cast positive)]
    exact_mod_cast Nat.mod_lt numerator positive
  have nonneg : (0 : ℚ) ≤ ((numerator % denominator : ℕ) : ℚ) / denominator := by positivity
  rw [unboundedPlace]
  generalize digits : (numerator / denominator).log2 - 52 = doublings
  have scaled : (numerator : ℚ) / denominator / 2 ^ doublings =
      (numerator : ℚ) / (denominator <<< doublings : ℕ) := by
    rw [Nat.shiftLeft_eq, div_div]
    push_cast
    rfl
  have grid : 0 < denominator <<< doublings := by
    rw [Nat.shiftLeft_eq]
    exact Nat.mul_pos positive (Nat.two_pow_pos doublings)
  have unit : (0 : ℚ) < 2 ^ doublings := by positivity
  refine isNearestPlace_steps ?_ ?_ ?_
  · rw [scaled]
    exact isNearestEven_nearestEven numerator grid
  · by_cases none : doublings = 0
    · exact .inl none
    · right
      have large : binade * 2 ^ doublings ≤ numerator / denominator := by
        rw [show binade = 2 ^ 52 by rfl, ← Nat.pow_add, ← digits, Nat.add_sub_of_le (by omega)]
        apply Nat.log2_self_le
        rintro zero
        simp [zero] at digits
        omega
      rw [le_div_iff₀ unit, quotient]
      have := (by exact_mod_cast large : (binade : ℚ) * 2 ^ doublings ≤ (numerator / denominator : ℕ))
      linarith
  · have small : numerator / denominator + 1 ≤ 2 * binade * 2 ^ doublings := by
      calc
        numerator / denominator + 1 ≤ 2 ^ ((numerator / denominator).log2 + 1) := Nat.lt_log2_self
        _ ≤ 2 ^ (53 + doublings) := Nat.pow_le_pow_right (by decide) (by omega)
        _ = 2 * binade * 2 ^ doublings := by rw [Nat.pow_add]; rfl
    rw [div_le_iff₀ unit, quotient]
    have := (by exact_mod_cast small :
      ((numerator / denominator : ℕ) : ℚ) + 1 ≤ (2 * binade : ℕ) * 2 ^ doublings)
    linarith

/-- A magnitude is nearest to itself alone. -/
theorem IsNearestPlace.eq_of_unitsAt {place other : ℕ} (nearest : IsNearestPlace (unitsAt place) other) :
    other = place := by
  have nearer := nearest.le place
  rw [sub_self, abs_zero] at nearer
  have none := abs_eq_zero.mp (le_antisymm nearer (abs_nonneg _))
  apply unitsAt_strictMono.injective
  exact_mod_cast (sub_eq_zero.mp none).symm

/-- The count halfway from the largest finite magnitude to the next power of two. -/
def overflow : ℕ := 2 ^ 1024 - 2 ^ 970

theorem unitsAt_topPlace_lt : (unitsAt (topPlace - 1) : ℚ) < unitsAt topPlace := by
  exact_mod_cast unitsAt_strictMono (by decide : topPlace - 1 < topPlace)

theorem unitsAt_topPlace_add :
    (unitsAt (topPlace - 1) : ℚ) + unitsAt topPlace = 2 * (overflow * oneUnits : ℕ) := by
  have halfway : unitsAt (topPlace - 1) + unitsAt topPlace = 2 * (overflow * oneUnits) := by
    decide +kernel
  exact_mod_cast halfway

section

variable {value : ℚ} {place : ℕ} (nearest : IsNearestPlace value place)

include nearest

/-- What is nearest to a finite place is less than halfway to the place of infinity. Halfway it is
nearest to that place, as the last finite place is odd. -/
theorem IsNearestPlace.lt_overflow (inside : place < topPlace) :
    value < (overflow * oneUnits : ℕ) := by
  have middle := unitsAt_topPlace_add
  have rising := unitsAt_topPlace_lt
  by_contra high
  have last : place ≤ topPlace - 1 := Nat.le_sub_one_of_lt inside
  have below : (unitsAt place : ℚ) ≤ unitsAt (topPlace - 1) := by
    exact_mod_cast unitsAt_strictMono.monotone last
  have closer : |value - unitsAt topPlace| ≤ value - unitsAt (topPlace - 1) := by
    rw [abs_le]
    constructor <;> linarith
  have apart : |value - unitsAt place| = value - unitsAt place := abs_of_pos (by linarith)
  have nearer := nearest.le topPlace
  have same : place = topPlace - 1 := by
    apply unitsAt_strictMono.injective
    exact_mod_cast le_antisymm below (by linarith)
  rcases nearest.even_of_tie topPlace (by linarith) with top | even
  · exact Nat.ne_of_lt inside top
  · rw [same] at even
    exact absurd even (by decide)

/-- What is less than halfway to the place of infinity is nearer to the last finite place. -/
theorem IsNearestPlace.lt_topPlace (low : value < (overflow * oneUnits : ℕ)) : place < topPlace := by
  have middle := unitsAt_topPlace_add
  have rising := unitsAt_topPlace_lt
  by_contra outside
  have beyond : (unitsAt topPlace : ℚ) ≤ unitsAt place := by
    exact_mod_cast unitsAt_strictMono.monotone (Nat.le_of_not_lt outside)
  have nearer := nearest.le (topPlace - 1)
  rw [abs_sub_comm, abs_of_pos (by linarith)] at nearer
  rcases le_abs'.mp nearer with above | below
  · linarith
  · linarith

/-- Rounding is to a finite place exactly below the overflow. -/
theorem IsNearestPlace.lt_topPlace_iff : place < topPlace ↔ value < (overflow * oneUnits : ℕ) :=
  ⟨nearest.lt_overflow, nearest.lt_topPlace⟩

end

/-- A quotient is rounded to a finite place exactly when it is below the overflow, and then to the
nearest place. -/
theorem nearestPlace_lt_topPlace_iff (numerator : ℕ) {denominator : ℕ} (positive : 0 < denominator) :
    nearestPlace numerator denominator < topPlace ↔
      (numerator : ℚ) / denominator < (overflow * oneUnits : ℕ) := by
  rw [← (isNearestPlace_unboundedPlace numerator positive).lt_topPlace_iff, nearestPlace_eq]
  simp

theorem isNearestPlace_nearestPlace {numerator denominator : ℕ} (positive : 0 < denominator)
    (finite : nearestPlace numerator denominator < topPlace) :
    IsNearestPlace ((numerator : ℚ) / denominator) (nearestPlace numerator denominator) := by
  have nearest := isNearestPlace_unboundedPlace numerator positive
  rw [nearestPlace_eq] at finite ⊢
  rwa [Nat.min_eq_right (by omega)]

end FlatSheet.Binary64
