import FlatSheet.Proofs.Number.Decimal
import FlatSheet.Proofs.Number.Nonfinite
import FlatSheet.Proofs.Number.Numeral

/-! # What numerals are read as

A numeral denotes the rational that is meant by its digits, its point and its exponent together,
however long the runs of digits are. What is read is the number that this rational is rounded to. So
neither a name of an infinity nor a numeral from the overflow on is ever read as a number.
-/

namespace FlatSheet

open Binary64

namespace Decimal.Spelling

/-- The rational that a numeral denotes. -/
def value (spelling : Spelling) : ℚ :=
  withSign (spelling.sign == ['-'])
    (Number.Numeral.size spelling.whole spelling.part * 10 ^ Exponent.scale spelling.exponent?)

theorem value_decimal (spelling : Spelling) : spelling.decimal.value = spelling.value := by
  rw [Decimal.value, value, decimal, Number.Numeral.size_eq, zpow_sub₀ (by norm_num), zpow_natCast]
  congr 1
  ring

end Decimal.Spelling

namespace Number

variable {text : Text} {spelling : Decimal.Spelling}

theorem parse?_of_spelling (spelled : text.trim = spelling.text) :
    parse? text = spelling.decimal.toFinite? := by
  rw [parse?, spelled, spelling.ofText?_text, Option.bind_some]

/-- A numeral is read as the number that its rational is rounded to. -/
theorem parse?_of_spelling_eq_some_iff (spelled : text.trim = spelling.text) (number : Float) :
    parse? text = some number ↔
      isNegative number = (spelling.sign == ['-']) ∧ IsRounded spelling.value number := by
  rw [parse?_of_spelling spelled, Decimal.toFinite?_eq_some_iff, spelling.value_decimal]
  rfl

private theorem parse?_of_spelling_eq_none_iff (spelled : text.trim = spelling.text) :
    parse? text = none ↔ (overflow : ℚ) ≤ |spelling.value| := by
  rw [parse?_of_spelling spelled, Decimal.toFinite?_eq_none_iff, spelling.value_decimal]

private theorem exists_spelling_of_parse? {number : Float} (read : parse? text = some number) :
    ∃ spelling : Decimal.Spelling, text.trim = spelling.text := by
  obtain ⟨decimal, numeral, -⟩ := Option.bind_eq_some_iff.mp read
  obtain ⟨spelling, spelled, -⟩ := (Decimal.Spelling.ofText?_eq_some_iff ..).mp numeral
  exact ⟨spelling, spelled⟩

/-- A text is a number exactly when, blanks aside, it is a numeral whose rational is rounded to a
finite number. It is then the one number that the rational is rounded to, with the sign of the
numeral, which zero keeps. A numeral is no number only from the overflow on, and a name of an
infinity or of what is not a number, in any case and after any sign, is none at all. -/
theorem parse?_rounds_spelling (text : Text) :
    (∀ number, parse? text = some number ↔ ∃ spelling : Decimal.Spelling,
      text.trim = spelling.text ∧ isNegative number = (spelling.sign == ['-']) ∧
        IsRounded spelling.value number) ∧
    (∀ spelling : Decimal.Spelling, text.trim = spelling.text →
      (parse? text = none ↔ overflow ≤ |spelling.value|) ∧
      ∀ number, parse? text = some number ↔
        isNegative number = (spelling.sign == ['-']) ∧ IsRounded spelling.value number) ∧
    ∀ sign ∈ Text.signs, ∀ name : Text, name.upper ∈ nonfiniteNames → text.trim = sign ++ name →
      parse? text = none := by
  refine ⟨fun number => ⟨fun read => ?_, ?_⟩, fun spelling spelled => ?_,
    fun sign signed name known trimmed => (Nonfinite.named signed known trimmed).parse?_eq_none⟩
  · obtain ⟨spelling, spelled⟩ := exists_spelling_of_parse? read
    exact ⟨spelling, spelled, (parse?_of_spelling_eq_some_iff spelled number).mp read⟩
  · rintro ⟨spelling, spelled, rounded⟩
    exact (parse?_of_spelling_eq_some_iff spelled number).mpr rounded
  · exact ⟨parse?_of_spelling_eq_none_iff spelled, parse?_of_spelling_eq_some_iff spelled⟩

/-- A numeral without digits before its point is read as the least number above zero, one without
digits after it is too large, and a name is no number. -/
theorem parse?_rounds_spelling_subnormal :
    ∃ small large : Decimal.Spelling, Text.trim "\t-.3e-323 ".toList = small.text ∧
      parse? "\t-.3e-323 ".toList = some (atPlace true 1) ∧
      IsRounded (-(3 / 10 * 10 ^ (-323 : ℤ))) (atPlace true 1) ∧
      Text.trim "2.E+308".toList = large.text ∧ overflow ≤ |large.value| ∧
      parse? "2.E+308".toList = none ∧ parse? "-iNf".toList = none := by
  let small : Decimal.Spelling := ⟨['-'], [], some ['3'],
    some ⟨'e', ['-'], "323".toList, by decide, by decide, by decide, by decide⟩, by decide,
    by decide, by rintro part ⟨⟩; decide, .inr ⟨['3'], rfl, by decide⟩⟩
  let large : Decimal.Spelling := ⟨[], ['2'], some [],
    some ⟨'E', ['+'], "308".toList, by decide, by decide, by decide, by decide⟩, by decide,
    by decide, by rintro part ⟨⟩; decide, .inl (by decide)⟩
  have least : parse? "\t-.3e-323 ".toList = some (atPlace true 1) := by decide +kernel
  have beyond : parse? "2.E+308".toList = none := by decide +kernel
  have spelledSmall : Text.trim "\t-.3e-323 ".toList = small.text := by decide
  have spelledLarge : Text.trim "2.E+308".toList = large.text := by decide
  obtain ⟨-, small_iff, -⟩ := parse?_rounds_spelling "\t-.3e-323 ".toList
  obtain ⟨-, large_iff, -⟩ := parse?_rounds_spelling "2.E+308".toList
  obtain ⟨-, -, named⟩ := parse?_rounds_spelling "-iNf".toList
  obtain ⟨-, rounded⟩ := ((small_iff small spelledSmall).2 _).mp least
  have value : small.value = -(3 / 10 * 10 ^ (-323 : ℤ)) := by
    have size : Numeral.size [] ['3'] = 3 / 10 := by
      have whole : Text.toNumber [] = 0 := rfl
      have part : Text.toNumber ['3'] = 3 := rfl
      norm_num [Numeral.size, whole, part]
    have scale : Decimal.Exponent.scale small.exponent? = -323 := by decide
    rw [Decimal.Spelling.value, scale]
    exact congrArg (fun size => -(size * 10 ^ (-323 : ℤ))) size
  rw [value] at rounded
  exact ⟨small, large, spelledSmall, least, rounded, spelledLarge,
    (large_iff large spelledLarge).1.mp beyond, beyond,
    named ['-'] (by decide) "iNf".toList (by decide) (by decide)⟩

end Number

end FlatSheet
