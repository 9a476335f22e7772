import FlatSheet.Proofs.Number.Accuracy

/-! # Shown numbers that are read again

A numeral is read as the number nearest to it, which need not be the number that it was shown for.
But that number was there to be chosen, so the one that is read is not farther from the numeral, and
it is shown by the same numeral. A whole number is what its numeral denotes and comes back itself.
-/

namespace FlatSheet

open Binary64

namespace Number

namespace Numeral

variable (numeral : Numeral)

/-- The number that a numeral is rounded to. -/
def rounded : Float :=
  ofQuotient numeral.negative (Text.toNumber (numeral.whole ++ numeral.part))
    (10 ^ numeral.part.length)

private theorem isNegative_rounded : isNegative numeral.rounded = numeral.negative :=
  isNegative_ofQuotient _ _

theorem size_eq_cast : size numeral.whole numeral.part =
    (Text.toNumber (numeral.whole ++ numeral.part) : ℚ) / (10 ^ numeral.part.length : ℕ) := by
  rw [size_eq, Nat.cast_pow, Nat.cast_ofNat]

variable (inside : size numeral.whole numeral.part < overflow)

include inside

theorem isFinite_rounded : isFinite numeral.rounded = true := by
  rw [size_eq_cast] at inside
  exact (isFinite_ofQuotient_iff _ _ (by positivity)).mpr inside

/-- A numeral that is not too large is read as the number that it is rounded to. -/
theorem parse?_text : parse? numeral.text = some numeral.rounded := by
  rw [parse?, trim_text, ofText?_text, Option.bind_some, Decimal.toFinite?,
    Decimal.toFloat_of_places]
  exact if_pos (numeral.isFinite_rounded inside)

/-- No number is nearer to the numeral. -/
theorem abs_size_sub_rounded_le (number : Float) :
    |size numeral.whole numeral.part - magnitude numeral.rounded| ≤
      |size numeral.whole numeral.part - magnitude number| := by
  rw [size_eq_cast] at inside ⊢
  exact abs_sub_ofQuotient_le _ _ (by positivity) inside number

end Numeral

variable {number : Float}

theorem size_numeral (number : Float) :
    Numeral.size (numeral number).whole (numeral number).part = (millionths number : ℚ) / 10 ^ 6 :=
  size_decimals _

/-- Rounding to millionths does not reach the overflow. -/
theorem size_numeral_lt (finite : isFinite number = true) :
    Numeral.size (numeral number).whole (numeral number).part < overflow := by
  have room := magnitude_add_one_le finite
  have near := (isNearestEven_millionths number).near
  rw [abs_le] at near
  rw [size_numeral, div_lt_iff₀ (by positivity)]
  push_cast at near
  linarith

/-- What is read again is rounded to the same count of millionths. -/
theorem millionths_rounded (finite : isFinite number = true) :
    millionths (numeral number).rounded = millionths number := by
  have closer := (numeral number).abs_size_sub_rounded_le (size_numeral_lt finite) number
  rw [size_numeral, abs_sub_comm, abs_sub_comm _ (magnitude number), ← Int.cast_natCast,
    abs_sub_millionths, abs_sub_millionths, div_le_div_iff_of_pos_right (by positivity)] at closer
  have nearest := (isNearestEven_millionths number).of_dist_le closer
  exact Int.ofNat_inj.mp ((isNearestEven_millionths _).unique nearest)

/-- So it has the same text. -/
theorem display_rounded (finite : isFinite number = true) :
    display (numeral number).rounded = display number := by
  have again := (numeral number).isFinite_rounded (size_numeral_lt finite)
  have sign : (numeral number).negative = (isNegative number && millionths number != 0) := rfl
  rw [display_of_isFinite again, display_of_isFinite finite, Numeral.isNegative_rounded,
    millionths_rounded finite, sign, Bool.and_assoc, Bool.and_self]

/-- The text of a whole number is an integer. -/
theorem isInteger_display (whole : IsWhole number) : (display number).IsInteger := by
  obtain ⟨count, -, shown⟩ := exists_display whole
  have plain : (display number).trim = display number := by
    rw [display_eq_text whole.finite, Numeral.trim_text]
  rw [Text.IsInteger, plain, shown, Numeral.signed_eq]
  refine ⟨_, ?_, Text.ofNumber count, Text.ofNumber_ne_nil count, Text.allDigits_ofNumber count, rfl⟩
  split <;> decide

private theorem parse?_display_of_isWhole (whole : IsWhole number) :
    parse? (display number) = some (unsignedZero number) := by
  rw [← integerPrefix?_eq_parse? (isInteger_display whole), integerPrefix?_display whole]

/-- The text of a finite number is read as a number, which is shown by the same text. A whole number
is read as itself, negative zero as zero. -/
theorem parse?_display_stable (number : Float) (finite : isFinite number = true) :
    ∃ read, parse? (display number) = some read ∧ display read = display number ∧
      ((∃ whole : ℤ, value number = whole) → read = unsignedZero number) := by
  have parsed : parse? (display number) = some (numeral number).rounded := by
    rw [display_eq_text finite, Numeral.parse?_text _ (size_numeral_lt finite)]
  refine ⟨_, parsed, display_rounded finite, fun whole => ?_⟩
  have exactly := parse?_display_of_isWhole ((isWhole_iff finite).mpr whole)
  exact Option.some.inj (parsed.symm.trans exactly)

/-- The number -3/128 is shown by a numeral that is another number. Negative zero is read as zero. -/
theorem parse?_display_stable_tie :
    let tie := Float.ofBits 0xBF98000000000000
    isFinite tie = true ∧ isFinite (-0) = true ∧
      (∃ read, parse? "-0.023438".toList = some read ∧ read ≠ tie ∧
        display read = "-0.023438".toList) ∧
      parse? (display (-0)) = some 0 := by
  intro tie
  have finiteTie : isFinite tie = true := by decide +kernel
  have finiteZero : isFinite (-0) = true := by decide +kernel
  have shown : display tie = "-0.023438".toList := by decide +kernel
  have other : parse? "-0.023438".toList ≠ some tie := by decide +kernel
  have whole : ∃ whole : ℤ, value (-0) = whole :=
    (isWhole_iff finiteZero).mp ⟨finiteZero, by decide +kernel⟩
  obtain ⟨read, parsed, again, -⟩ := parse?_display_stable tie finiteTie
  obtain ⟨zero, parsedZero, -, unsigned⟩ := parse?_display_stable (-0) finiteZero
  rw [shown] at parsed again
  rw [unsigned whole, unsignedZero, if_pos rfl] at parsedZero
  exact ⟨finiteTie, finiteZero, ⟨read, parsed, fun same => other (same ▸ parsed), again⟩, parsedZero⟩

end Number

end FlatSheet
