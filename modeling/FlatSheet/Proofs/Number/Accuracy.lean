import FlatSheet.Proofs.Number.FixedPoint

/-! # How near a shown number is

A finite number is shown as the numeral of its nearest count of millionths, and of two equally near
counts the even one. So the numeral is off by half a millionth at most, a whole number is shown
exactly, and only what is not finite has a text that is no numeral.
-/

namespace FlatSheet.Number

open Binary64

/-- The numeral that is shown for a finite number. -/
def numeral (number : Float) : Numeral :=
  .ofCount (isNegative number && millionths number != 0) (millionths number) (by simp)

theorem display_eq_text {number : Float} (finite : isFinite number = true) :
    display number = (numeral number).text := by
  rw [display_of_isFinite finite, numeral, Numeral.text_ofCount]

/-- The sign that is left out is that of a zero, so the value has the sign of the number. -/
theorem value_numeral (number : Float) : (numeral number).value =
    withSign (isNegative number) ((millionths number : ℚ) / 10 ^ 6) := by
  rw [numeral, Numeral.value_ofCount]
  generalize millionths number = count
  by_cases zero : count = 0
  · rw [zero, Nat.cast_zero, zero_div, withSign_zero, withSign_zero]
  · have signs : (isNegative number && count != 0) = isNegative number := by simp [zero]
    rw [signs]

theorem isNearestEven_millionths (number : Float) :
    IsNearestEven (magnitude number * 10 ^ 6) (millionths number) := by
  have nearest := isNearestEven_nearestEven (units number * million) oneUnits_pos
  rw [Nat.cast_mul, mul_div_right_comm] at nearest
  have six : ((million : ℕ) : ℚ) = 10 ^ 6 := by norm_num [million]
  rwa [six] at nearest

/-- A numeral is a whole count of millionths, the nearest one with a tie going to the even one. -/
theorem exists_value_numeral (number : Float) :
    ∃ count : ℤ, (numeral number).value = count / 10 ^ 6 ∧
      IsNearestEven (value number * 10 ^ 6) count := by
  have nearest := (isNearestEven_millionths number).withSign (isNegative number)
  rw [withSign_mul] at nearest
  refine ⟨_, ?_, nearest⟩
  rw [value_numeral]
  cases isNegative number with
  | false => rfl
  | true =>
    simp only [withSign, if_true]
    push_cast
    ring

/-- A whole number is the value of its numeral. -/
theorem value_numeral_of_isWhole {number : Float} (whole : IsWhole number) :
    (numeral number).value = value number := by
  obtain ⟨-, count, counted⟩ := whole
  rw [Nat.mul_comm] at counted
  rw [value_numeral, millionths_of_units counted, value, magnitude_of_units counted]
  congr 1
  norm_num [million]

/-- Distances between counts of millionths, in millionths. -/
theorem abs_sub_millionths (number : ℚ) (count : ℤ) :
    |number - count / 10 ^ 6| = |number * 10 ^ 6 - count| / 10 ^ 6 := by
  have six : (0 : ℚ) < 10 ^ 6 := by positivity
  rw [eq_div_iff six.ne', ← abs_mul_sub_mul six, div_mul_cancel₀ _ six.ne']

private theorem hash_notMem_display {number : Float} (finite : isFinite number = true) :
    '#' ∉ display number := by
  intro member
  rw [display_eq_text finite] at member
  rcases Numeral.mem_text member with same | same | digit <;> contradiction

/-- A number is of one of three kinds, and its text tells of which. -/
theorem display_cases (number : Float) :
    (isNaN number = true ∧ isInfinite number = false ∧ display number = "#NAN!".toList) ∨
    (isNaN number = false ∧ isInfinite number = true ∧ display number = "#INF!".toList) ∨
    (isNaN number = false ∧ isInfinite number = false ∧ '#' ∉ display number) := by
  rcases Nat.lt_trichotomy (place number) topPlace with below | top | above
  · have finite : isFinite number = true := by simpa [isFinite] using below
    have isNumber : isNaN number = false := by simpa [isNaN] using below.le
    have bounded : isInfinite number = false := by simpa [isInfinite] using below.ne
    exact .inr (.inr ⟨isNumber, bounded, hash_notMem_display finite⟩)
  · have isNumber : isNaN number = false := by simp [isNaN, top]
    have infinite : isInfinite number = true := by simp [isInfinite, top]
    exact .inr (.inl ⟨isNumber, infinite, by simp [display, isNumber, infinite]⟩)
  · have noNumber : isNaN number = true := by simpa [isNaN] using above
    have bounded : isInfinite number = false := by simpa [isInfinite] using above.ne'
    exact .inl ⟨noNumber, bounded, by simp [display, noNumber]⟩

private theorem display_eq_nan_iff (number : Float) :
    display number = "#NAN!".toList ↔ isNaN number = true := by
  have inside : '#' ∈ "#NAN!".toList := by decide
  rcases display_cases number with ⟨kind, -, shown⟩ | ⟨kind, -, shown⟩ | ⟨kind, -, numeral⟩
  · simp [kind, shown]
  · simp [kind, shown]
  · exact iff_of_false (fun same => numeral (same ▸ inside)) (by simp [kind])

private theorem display_eq_infinity_iff (number : Float) :
    display number = "#INF!".toList ↔ isInfinite number = true := by
  have inside : '#' ∈ "#INF!".toList := by decide
  rcases display_cases number with ⟨-, kind, shown⟩ | ⟨-, kind, shown⟩ | ⟨-, kind, numeral⟩
  · simp [kind, shown]
  · simp [kind, shown]
  · exact iff_of_false (fun same => numeral (same ▸ inside)) (by simp [kind])

/-- The text of a finite number is its trimmed text in fixed point, never a zero with a sign, and a
numeral without a digit to spare. A whole number, however large, is what its numeral denotes, and
there is no point in it. Any number is shown as a count of millionths that is off by half a millionth
at most; no other count is nearer, and where it is off by exactly that half the count is even. What
is not a number and the infinities have texts of their own, which no other number has. -/
theorem display_canonical_nearest :
    (∀ number : Float, isFinite number = true →
      display number = trimmedFixedPoint number ∧ display number ≠ "-0".toList ∧
      (∃ numeral : Numeral, display number = numeral.text) ∧
      ∀ numeral : Numeral, display number = numeral.text →
        ((∃ whole : ℤ, value number = whole) →
          numeral.value = value number ∧ '.' ∉ display number) ∧
        ∃ count : ℤ, numeral.value = count / 10 ^ 6 ∧
          |value number - numeral.value| ≤ 1 / 2 / 10 ^ 6 ∧
          (∀ other : ℤ, |value number - numeral.value| ≤ |value number - other / 10 ^ 6|) ∧
          (|value number - numeral.value| = 1 / 2 / 10 ^ 6 → Even count)) ∧
    (∀ number, display number = "#NAN!".toList ↔ isNaN number = true) ∧
    ∀ number, display number = "#INF!".toList ↔ isInfinite number = true := by
  refine ⟨fun number finite => ?_, display_eq_nan_iff, display_eq_infinity_iff⟩
  have shown := display_eq_text finite
  have fixed := display_eq_trimmedFixedPoint finite
  refine ⟨fixed, fixed ▸ trimmedFixedPoint_ne number, ⟨_, shown⟩, fun other same => ?_⟩
  have denoted : other.value = (numeral number).value :=
    Numeral.value_eq_of_text_eq (same.symm.trans shown)
  rw [denoted]
  constructor
  · intro whole
    have isWhole := (isWhole_iff finite).mpr whole
    refine ⟨value_numeral_of_isWhole isWhole, fun point => ?_⟩
    rcases mem_display isWhole point with sign | digit <;> contradiction
  · obtain ⟨count, counted, nearest⟩ := exists_value_numeral number
    refine ⟨count, counted, ?_, ?_, ?_⟩
    · rw [counted, abs_sub_millionths]
      exact div_le_div_of_nonneg_right nearest.near (by positivity)
    · intro other
      rw [counted, abs_sub_millionths, abs_sub_millionths]
      exact div_le_div_of_nonneg_right (nearest.le other) (by positivity)
    · intro half
      rw [counted, abs_sub_millionths] at half
      exact nearest.even ((div_left_inj' (by positivity)).mp half)

/-- The number -3/128 is halfway between two counts of millionths and shown by the even one. The
number 10^22 is above the switch to six decimals and shown as all of its digits. -/
theorem display_canonical_nearest_tie :
    let tie := Float.ofBits 0xBF98000000000000
    let wide := Float.ofBits 0x4480F0CF064DD592
    let written : Numeral := ⟨true, "0".toList, "023438".toList, by decide, by decide, by decide,
      by decide, by decide, by decide, by decide⟩
    isFinite tie = true ∧ isFinite wide = true ∧ display tie = written.text ∧
      |value tie - written.value| = 1 / 2 / 10 ^ 6 ∧
      (∃ count : ℤ, written.value = count / 10 ^ 6 ∧ Even count) ∧
      display wide = "10000000000000000000000".toList ∧
      (∃ whole : ℤ, value wide = whole) ∧
      (∃ numeral : Numeral, display wide = numeral.text ∧ numeral.value = value wide) ∧
      (display nan = "#NAN!".toList ↔ isNaN nan = true) := by
  intro tie wide written
  obtain ⟨finite, noNumber, -⟩ := display_canonical_nearest
  have finiteTie : isFinite tie = true := by decide +kernel
  have finiteWide : isFinite wide = true := by decide +kernel
  have shown : display tie = written.text := by decide +kernel
  have valueTie : value tie = -3 / 128 := by
    have negative : isNegative tie = true := by decide +kernel
    have counted : units tie * 128 = 3 * oneUnits := by decide +kernel
    rw [value, magnitude, negative, withSign, if_pos rfl, neg_div, neg_inj,
      div_eq_div_iff cast_oneUnits_pos.ne' (by norm_num)]
    exact_mod_cast counted
  have valueWritten : written.value = -23438 / 10 ^ 6 := by
    have whole : Text.toNumber "0".toList = 0 := by decide +kernel
    have part : Text.toNumber "023438".toList = 23438 := by decide +kernel
    have length : "023438".toList.length = 6 := by decide
    change withSign true (Numeral.size "0".toList "023438".toList) = _
    rw [Numeral.size, whole, part, length, withSign]
    norm_num
  have half : |value tie - written.value| = 1 / 2 / 10 ^ 6 := by
    rw [valueTie, valueWritten]
    norm_num [abs_of_pos]
  have whole : ∃ whole : ℤ, value wide = whole :=
    (isWhole_iff finiteWide).mp ⟨finiteWide, by decide +kernel⟩
  obtain ⟨-, count, counted, -, -, even⟩ := (finite tie finiteTie).2.2.2 written shown
  obtain ⟨-, -, ⟨numeral, same⟩, denoted⟩ := finite wide finiteWide
  exact ⟨finiteTie, finiteWide, shown, half, ⟨count, counted, even half⟩, by decide +kernel, whole,
    ⟨numeral, same, ((denoted numeral same).1 whole).1⟩, noNumber nan⟩

end FlatSheet.Number
