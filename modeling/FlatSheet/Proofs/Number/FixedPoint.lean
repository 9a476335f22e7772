import FlatSheet.Proofs.Number.Numeral

/-! # Numbers with a fixed count of decimals

A whole number below 10^15 can be written without decimals, and any other number with six of them,
from which the zeros at the end and then the point are taken off. Both ways keep the sign of a zero,
which has to be taken off as well. The text of a number is what they give.
-/

namespace FlatSheet.Number

open Binary64

/-- A number rounded to a count of decimals, all of which are written, with its own sign. -/
def fixedPoint (places : ℕ) (number : Float) : Text :=
  let count := nearestEven (units number * 10 ^ places) oneUnits
  let whole := Text.ofNumber (count / 10 ^ places)
  let part := padded places (count % 10 ^ places)
  signed (isNegative number) (if places = 0 then whole else whole ++ '.' :: part)

/-- A small whole number without decimals, any other number with six decimals but without the zeros
and the point at its end, and never a zero with a sign. -/
def trimmedFixedPoint (number : Float) : Text :=
  let text :=
    if IsWhole number ∧ units number < 10 ^ 15 * oneUnits then fixedPoint 0 number
    else ((fixedPoint 6 number).rdropWhile (· == '0')).rdropWhile (· == '.')
  if text = "-0".toList then "0".toList else text

theorem trimmedFixedPoint_ne (number : Float) : trimmedFixedPoint number ≠ "-0".toList := by
  unfold trimmedFixedPoint
  extract_lets text
  by_cases zero : text = "-0".toList
  · rw [if_pos zero]
    decide
  · rwa [if_neg zero]

private theorem fixedPoint_six (number : Float) : fixedPoint 6 number =
    signed (isNegative number)
      (Text.ofNumber (millionths number / million) ++ '.' :: sixDigits (millionths number)) := rfl

section

variable {p : Char → Bool} {text : Text}

/-- What is all taken off at the end of a text leaves what is before it to go on with. -/
theorem rdropWhile_append_of_forall {back : Text} (all : ∀ char ∈ back, p char = true) :
    (text ++ back).rdropWhile p = text.rdropWhile p := by
  rw [List.rdropWhile, List.reverse_append, List.dropWhile_append_of_pos]
  · rfl
  · simpa using all

theorem rdropWhile_eq_self (kept : ∀ last ∈ text.getLast?, p last = false) :
    text.rdropWhile p = text := by
  rw [List.rdropWhile_eq_self_iff]
  intro present
  simp [kept _ (List.getLast_mem_getLast? present)]

end

/-- What ends in a point and decimals ends in the last decimal, or in the point if there is none. -/
theorem eq_point_or_mem_getLast? {front part : Text} {last : Char}
    (member : last ∈ (front ++ '.' :: part).getLast?) :
    part = [] ∧ last = '.' ∨ last ∈ part.getLast? := by
  rw [List.getLast?_append_of_ne_nil _ (by simp)] at member
  cases part with
  | nil => exact .inl ⟨rfl, (Option.mem_some.mp member).symm⟩
  | cons digit rest => exact .inr (by rwa [List.getLast?_cons_of_ne_nil (by simp)] at member)

private theorem ne_point_of_isDigit {char : Char} (digit : char.isDigit = true) :
    (char == '.') = false := by
  refine beq_eq_false_iff_ne.mpr ?_
  rintro rfl
  contradiction

/-- The zeros at the end are those that the decimals leave out. -/
theorem rdropWhile_zero_sixDigits (front : Text) (count : ℕ) :
    (front ++ '.' :: sixDigits count).rdropWhile (· == '0') = front ++ '.' :: decimals count := by
  obtain ⟨zeros, split, -⟩ := exists_sixDigits_eq count
  have allZeros : ∀ char ∈ List.replicate zeros '0', (char == '0') = true := by
    intro char member
    simpa using List.eq_of_mem_replicate member
  rw [split, ← List.cons_append, ← List.append_assoc, rdropWhile_append_of_forall allZeros]
  refine rdropWhile_eq_self fun last member => ?_
  rcases eq_point_or_mem_getLast? member with ⟨-, rfl⟩ | digit
  · rfl
  · refine beq_eq_false_iff_ne.mpr ?_
    rintro rfl
    exact getLast?_decimals count digit

/-- A point at the end goes when there are no decimals. -/
theorem rdropWhile_point_decimals {front : Text} (count : ℕ)
    (ended : ∀ last ∈ front.getLast?, last.isDigit = true) :
    (front ++ '.' :: decimals count).rdropWhile (· == '.') =
      front ++ Numeral.fraction (decimals count) := by
  have digits := allDigits_decimals count
  generalize decimals count = part at digits ⊢
  cases part with
  | nil =>
    rw [rdropWhile_append_of_forall (by simp), Numeral.fraction, List.append_nil]
    exact rdropWhile_eq_self fun last member => ne_point_of_isDigit (ended last member)
  | cons digit rest =>
    refine rdropWhile_eq_self fun last member => ?_
    have inPart := (eq_point_or_mem_getLast? member).resolve_left (by simp)
    exact ne_point_of_isDigit (digits last (List.mem_of_getLast? inPart))

private theorem trimmed_fixedPoint_six (number : Float) :
    ((fixedPoint 6 number).rdropWhile (· == '0')).rdropWhile (· == '.') =
      signed (isNegative number) (ofMillionths (millionths number)) := by
  have digits := Text.allDigits_ofNumber (millionths number / million)
  rw [fixedPoint_six, Numeral.signed_eq, ← List.append_assoc, rdropWhile_zero_sixDigits,
    rdropWhile_point_decimals, ofMillionths_eq, Numeral.signed_eq, List.append_assoc]
  intro last member
  rw [List.getLast?_append_of_ne_nil _ (Text.ofNumber_ne_nil _)] at member
  exact digits last (List.mem_of_getLast? member)

private theorem fixedPoint_zero {number : Float} (whole : IsWhole number) : fixedPoint 0 number =
    signed (isNegative number) (ofMillionths (millionths number)) := by
  obtain ⟨-, count, counted⟩ := whole
  rw [Nat.mul_comm] at counted
  rw [millionths_of_units counted, ofMillionths_mul_million, fixedPoint, counted, Nat.pow_zero,
    Nat.mul_one, nearestEven_mul count oneUnits_pos, Nat.div_one]
  rfl

/-- Only a count of zero is written as a zero alone. -/
theorem ofMillionths_eq_zero_iff (count : ℕ) : ofMillionths count = ['0'] ↔ count = 0 := by
  constructor
  · intro zero
    by_contra present
    have unsigned := (Numeral.ofCount true count fun _ => present).unsignedZero rfl
    rw [ofMillionths_eq] at zero
    change ¬(Text.ofNumber (count / million) = ['0'] ∧ decimals count = []) at unsigned
    obtain ⟨first, rest, whole⟩ := List.exists_cons_of_ne_nil (Text.ofNumber_ne_nil (count / million))
    rw [whole, List.cons_append] at zero
    obtain ⟨rfl, none⟩ := List.cons.inj zero
    obtain ⟨rfl, noFraction⟩ := List.append_eq_nil_iff.mp none
    refine unsigned ⟨whole, ?_⟩
    cases part : decimals count with
    | nil => rfl
    | cons digit rest =>
      rw [part] at noFraction
      contradiction
  · rintro rfl
    decide +kernel

/-- The text of a finite number is its trimmed text in fixed point. -/
theorem display_eq_trimmedFixedPoint {number : Float} (finite : isFinite number = true) :
    display number = trimmedFixedPoint number := by
  have signedText : trimmedFixedPoint number =
      let text := signed (isNegative number) (ofMillionths (millionths number))
      if text = "-0".toList then "0".toList else text := by
    rw [trimmedFixedPoint]
    split
    · next small => rw [fixedPoint_zero small.1]
    · rw [trimmed_fixedPoint_six]
  rw [signedText, display_of_isFinite finite]
  generalize millionths number = count
  cases isNegative number with
  | false =>
    have unsigned : ofMillionths count ≠ ['-', '0'] := by
      intro same
      have member : '-' ∈ ofMillionths count := by
        rw [same]
        decide
      rw [ofMillionths_eq] at member
      rcases Numeral.mem_unsigned (Text.allDigits_ofNumber _) (allDigits_decimals _) member with
        point | digit <;> contradiction
    simp [signed, unsigned]
  | true =>
    by_cases zero : count = 0
    · subst zero
      decide +kernel
    · have present : ofMillionths count ≠ ['0'] := mt (ofMillionths_eq_zero_iff count).mp zero
      simp [signed, zero, present]

end FlatSheet.Number
