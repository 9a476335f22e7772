import FlatSheet.Number.Display
import FlatSheet.Proofs.Number.Decimal
import FlatSheet.Proofs.Number.Reading
import FlatSheet.Proofs.Text.Digits

/-! # Whole numbers as they are shown

A whole number is shown as all of its digits, after a minus when it is below zero. Its millionths
are a multiple of a million, so no decimals are left over, and no digit of the count is dropped with
them. The leading integer of that text is the count with its sign, which is the number itself. Only
negative zero is shown without its sign and read as zero.
-/

namespace FlatSheet

namespace Number

open Binary64

/-- Digits after a minus, or alone. -/
def signed (negative : Bool) (digits : Text) : Text := if negative then '-' :: digits else digits

private theorem decimals_mul_million (count : Nat) : decimals (count * million) = [] := by
  rw [decimals, Nat.mul_mod_left]
  decide

theorem ofMillionths_mul_million (count : Nat) :
    ofMillionths (count * million) = Text.ofNumber count := by
  rw [ofMillionths, decimals_mul_million, Nat.mul_div_cancel count (by decide)]

theorem millionths_of_units {number : Float} {count : Nat}
    (whole : units number = count * oneUnits) : millionths number = count * million := by
  rw [millionths, whole, Nat.mul_right_comm, nearestEven_mul _ oneUnits_pos]

theorem display_of_isFinite {number : Float} (finite : isFinite number = true) :
    display number =
      signed (isNegative number && millionths number != 0) (ofMillionths (millionths number)) := by
  have isNumber := isNaN_of_isFinite finite
  have bounded := isInfinite_of_isFinite finite
  simp [display, isNumber, bounded, signed]

/-- A whole number is shown by its count. -/
theorem exists_display {number : Float} (whole : IsWhole number) :
    ∃ count, units number = count * oneUnits ∧
      display number = signed (isNegative number && count != 0) (Text.ofNumber count) := by
  obtain ⟨finite, count, counted⟩ := whole
  rw [Nat.mul_comm] at counted
  have zeros : (count * million != 0) = (count != 0) := by
    rw [Bool.eq_iff_iff]
    simp [million]
  refine ⟨count, counted, ?_⟩
  rw [display_of_isFinite finite, millionths_of_units counted, ofMillionths_mul_million, zeros]

private theorem ofMillionths_ne_nil (count : Nat) : ofMillionths count ≠ [] := by
  rw [ofMillionths]
  split
  · exact Text.ofNumber_ne_nil _
  · simp

/-- Every number has a text. -/
theorem display_ne_nil (number : Float) : display number ≠ [] := by
  simp only [display]
  split
  · decide
  · split
    · decide
    · split
      · exact List.cons_ne_nil _ _
      · exact ofMillionths_ne_nil _

/-- A whole number is shown with digits and a minus only. -/
theorem mem_display {number : Float} (whole : IsWhole number) {char : Char}
    (member : char ∈ display number) : char = '-' ∨ char.isDigit = true := by
  obtain ⟨count, -, shown⟩ := exists_display whole
  rw [shown, signed] at member
  split at member
  · exact (List.mem_cons.mp member).imp_right (Text.allDigits_ofNumber count char)
  · exact .inr (Text.allDigits_ofNumber count char member)

theorem display_unsignedZero (number : Float) : display (unsignedZero number) = display number := by
  rw [unsignedZero]
  split
  · next zero =>
    subst zero
    decide +kernel
  · rfl

/-- What stands in the text of a number besides digits. -/
def marks : Text := "-.#NAIF!".toList

theorem allDigits_decimals (count : Nat) : (decimals count).AllDigits := by
  intro char member
  rw [decimals, List.mem_reverse] at member
  rcases List.mem_append.mp (List.mem_reverse.mp ((List.dropWhile_sublist _).subset member)) with
    zero | digit
  · rw [List.eq_of_mem_replicate zero]
    rfl
  · exact Text.allDigits_ofNumber _ char digit

private theorem mem_ofMillionths {count : Nat} {char : Char} (member : char ∈ ofMillionths count) :
    char.isDigit = true ∨ char ∈ marks := by
  have parts : char ∈ Text.ofNumber (count / million) ∨ char = '.' ∨ char ∈ decimals count := by
    rw [ofMillionths] at member
    split at member
    · exact .inl member
    · next split => simpa [split] using member
  rcases parts with whole | rfl | part
  · exact .inl (Text.allDigits_ofNumber _ char whole)
  · exact .inr (by decide)
  · exact .inl (allDigits_decimals count char part)

/-- Every text of a number is digits and marks. -/
theorem isDigit_or_mem_marks {number : Float} {char : Char} (member : char ∈ display number) :
    char.isDigit = true ∨ char ∈ marks := by
  have names : "#NAN!".toList ⊆ marks ∧ "#INF!".toList ⊆ marks := by decide
  simp only [display] at member
  split at member
  · exact .inr (names.1 member)
  · split at member
    · exact .inr (names.2 member)
    · split at member
      · rcases List.mem_cons.mp member with rfl | digits
        · exact .inr (by decide)
        · exact mem_ofMillionths digits
      · exact mem_ofMillionths member

private theorem spanSign_signed (negative : Bool) (count : Nat) :
    Text.spanSign (signed negative (Text.ofNumber count)).trimStart =
      (negative, Text.ofNumber count) := by
  cases negative with
  | true => rfl
  | false =>
    obtain ⟨first, rest, digits⟩ := List.exists_cons_of_ne_nil (Text.ofNumber_ne_nil count)
    have isDigit : first.isDigit = true := Text.allDigits_ofNumber count first (by simp [digits])
    have unsigned : first ≠ '-' ∧ first ≠ '+' := by
      constructor <;> rintro rfl <;> contradiction
    have kept : (signed false (first :: rest)).trimStart = first :: rest :=
      Text.trimStart_eq_self (by rintro other ⟨⟩; exact not_isBlank_of_isDigit isDigit)
    rw [digits, kept]
    simp [Text.spanSign, unsigned]

/-- A sign and digits are an integer with that sign. -/
theorem integerPrefix?_signed (negative : Bool) (count : Nat) :
    integerPrefix? (signed negative (Text.ofNumber count)) =
      Decimal.toFinite? { negative := negative, significand := count, exponent := 0 } := by
  have run := Text.spanDigits_eq_self (Text.allDigits_ofNumber count)
  have present : (Text.ofNumber count).isEmpty = false := by simp [Text.ofNumber_ne_nil]
  rw [integerPrefix?, spanSign_signed]
  simp only [run, present, Text.toNumber_ofNumber, Bool.false_eq_true, if_false]

private theorem toFinite?_of_units {number : Float} (finite : isFinite number = true) {count : Nat}
    (whole : units number = count * oneUnits) :
    Decimal.toFinite? { negative := isNegative number, significand := count, exponent := 0 } =
      some number := by
  have rounded : Decimal.toFloat ⟨isNegative number, count, 0⟩ = number := by
    rw [Decimal.toFloat_of_count, ofQuotient_of_units finite whole]
  rw [Decimal.toFinite?, rounded]
  exact if_pos finite

/-- A whole number is read as shown, but for the sign of a zero. -/
theorem integerPrefix?_display {number : Float} (whole : IsWhole number) :
    integerPrefix? (display number) = some (unsignedZero number) := by
  obtain ⟨count, counted, shown⟩ := exists_display whole
  rw [shown, integerPrefix?_signed]
  by_cases zero : count = 0
  · subst zero
    rw [Nat.zero_mul, units_eq_zero_iff] at counted
    rcases counted with rfl | rfl <;> decide +kernel
  · have notZero : number ≠ -0 := by
      rintro rfl
      have none : units (-0) = 0 := by decide +kernel
      rw [none, eq_comm, Nat.mul_eq_zero] at counted
      exact counted.elim zero (Nat.ne_of_gt oneUnits_pos)
    have signs : (isNegative number && count != 0) = isNegative number := by simp [zero]
    rw [signs, toFinite?_of_units whole.finite counted, unsignedZero, if_neg notZero]

end Number

end FlatSheet
