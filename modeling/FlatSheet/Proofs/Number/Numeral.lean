import FlatSheet.Proofs.Binary64.Value
import FlatSheet.Proofs.Number.Display
import FlatSheet.Proofs.Number.Integer

/-! # Numerals in their shortest form

A count of millionths is written as a numeral that has no digit to spare: no zero before another
digit, none after the last decimal, no point without decimals and no sign on zero. The numeral
denotes exactly that count of millionths. Read again, it is a decimal with the same digits.
-/

namespace FlatSheet.Number

open Binary64

/-- The digits before the point and the decimals of a numeral of at most six decimals, none of which
can be left out. -/
structure Numeral where
  negative : Bool
  whole : Text
  part : Text
  wholePresent : whole ≠ []
  wholeDigits : whole.AllDigits
  noLeadingZero : whole.head? = some '0' → whole = ['0']
  partDigits : part.AllDigits
  fewDecimals : part.length ≤ 6
  noTrailingZero : part.getLast? ≠ some '0'
  unsignedZero : negative = true → ¬(whole = ['0'] ∧ part = [])

namespace Numeral

/-- A point and the decimals, if there are any. -/
def fraction : Text → Text
  | [] => []
  | part => '.' :: part

/-- The numeral as written. -/
def text (numeral : Numeral) : Text :=
  signed numeral.negative (numeral.whole ++ fraction numeral.part)

/-- The value of digits before a point and of decimals after it. -/
def size (whole part : Text) : ℚ :=
  Text.toNumber whole + (Text.toNumber part : ℚ) / 10 ^ part.length

/-- The value that the numeral denotes. -/
def value (numeral : Numeral) : ℚ := withSign numeral.negative (size numeral.whole numeral.part)

/-- The characters of a numeral besides its sign. -/
theorem mem_unsigned {whole part : Text} (wholeDigits : whole.AllDigits) (partDigits : part.AllDigits)
    {char : Char} (member : char ∈ whole ++ fraction part) : char = '.' ∨ char.isDigit = true := by
  rcases List.mem_append.mp member with digit | digit
  · exact .inr (wholeDigits char digit)
  · cases part with
    | nil => contradiction
    | cons first rest => exact (List.mem_cons.mp digit).imp_right (partDigits char)

/-- The characters of a numeral. -/
theorem mem_text {numeral : Numeral} {char : Char} (member : char ∈ numeral.text) :
    char = '-' ∨ char = '.' ∨ char.isDigit = true := by
  have unsigned := @mem_unsigned _ _ numeral.wholeDigits numeral.partDigits char
  rw [text, signed] at member
  split at member
  · exact (List.mem_cons.mp member).imp_right unsigned
  · exact .inr (unsigned member)

/-- There are no blanks in a numeral. -/
theorem trim_text (numeral : Numeral) : numeral.text.trim = numeral.text := by
  have plain : ∀ char ∈ numeral.text, isBlank char = false := by
    intro char member
    rcases mem_text member with rfl | rfl | digit
    · rfl
    · rfl
    · exact not_isBlank_of_isDigit digit
  exact Text.trim_eq_self
    ⟨fun char first => plain char (List.mem_of_mem_head? first),
      fun char last => plain char (List.mem_of_getLast? last)⟩

/-- All digits together are a count of the last decimal. -/
theorem size_eq (whole part : Text) :
    size whole part = (Text.toNumber (whole ++ part) : ℚ) / 10 ^ part.length := by
  rw [size, Text.toNumber_append]
  push_cast
  rw [add_div, mul_div_cancel_right₀ _ (by positivity)]

end Numeral

/-- A number with zeros in front of it up to a width. -/
def padded (width number : ℕ) : Text :=
  List.replicate (width - (Text.ofNumber number).length) '0' ++ Text.ofNumber number

/-- Six digits are enough for what is left of a million. -/
def sixDigits (count : ℕ) : Text := padded 6 (count % million)

theorem decimals_eq (count : ℕ) : decimals count = (sixDigits count).rdropWhile (· == '0') := rfl

private theorem length_sixDigits (count : ℕ) : (sixDigits count).length = 6 := by
  have short : (Text.ofNumber (count % million)).length ≤ 6 :=
    (Nat.length_toDigits_le_iff (by decide) (by decide)).mpr (Nat.mod_lt count (by decide))
  rw [sixDigits, padded, List.length_append, List.length_replicate]
  omega

theorem toNumber_sixDigits (count : ℕ) : Text.toNumber (sixDigits count) = count % million := by
  rw [sixDigits, padded, Text.toNumber_zeros_append, Text.toNumber_ofNumber]

/-- The decimals and the zeros that are left out are six digits. -/
theorem exists_sixDigits_eq (count : ℕ) :
    ∃ zeros, sixDigits count = decimals count ++ List.replicate zeros '0' ∧
      (decimals count).length + zeros = 6 := by
  obtain ⟨zeros, dropped⟩ : ∃ zeros,
      (sixDigits count).rtakeWhile (· == '0') = List.replicate zeros '0' :=
    ⟨_, List.eq_replicate_of_mem fun char member => by simpa using List.mem_rtakeWhile_imp member⟩
  have split := List.rdropWhile_append_rtakeWhile (p := (· == '0')) (l := sixDigits count)
  rw [← decimals_eq, dropped] at split
  refine ⟨zeros, split.symm, ?_⟩
  rw [← length_sixDigits count, ← split, List.length_append, List.length_replicate]

theorem getLast?_decimals (count : ℕ) : (decimals count).getLast? ≠ some '0' := by
  intro last
  have present : decimals count ≠ [] := by
    intro none
    rw [none] at last
    contradiction
  have kept := List.rdropWhile_last_not (· == '0') (sixDigits count) present
  rw [List.getLast?_eq_some_getLast present] at last
  simp only [← decimals_eq, Option.some.inj last] at kept
  contradiction

/-- Without decimals a count is a multiple of a million. -/
theorem mod_million_of_decimals_eq_nil {count : ℕ} (none : decimals count = []) :
    count % million = 0 := by
  obtain ⟨zeros, split, -⟩ := exists_sixDigits_eq count
  rw [← toNumber_sixDigits, split, none, Text.toNumber_append_zeros]
  exact Nat.zero_mul _

/-- The digits before the point and the decimals are worth the count. -/
theorem size_decimals (count : ℕ) :
    Numeral.size (Text.ofNumber (count / million)) (decimals count) = (count : ℚ) / 10 ^ 6 := by
  obtain ⟨zeros, split, six⟩ := exists_sixDigits_eq count
  have rest : count % million = Text.toNumber (decimals count) * 10 ^ zeros := by
    rw [← toNumber_sixDigits, split, Text.toNumber_append_zeros]
  have part : (Text.toNumber (decimals count) : ℚ) / 10 ^ (decimals count).length =
      ((count % million : ℕ) : ℚ) / (million : ℕ) := by
    rw [rest, show million = 10 ^ ((decimals count).length + zeros) by rw [six]; rfl, pow_add]
    push_cast
    rw [mul_div_mul_right _ _ (by positivity)]
  rw [Numeral.size, Text.toNumber_ofNumber, part, ← cast_div_eq count (by decide)]
  norm_num [million]

theorem ofMillionths_eq (count : ℕ) : ofMillionths count =
    Text.ofNumber (count / million) ++ Numeral.fraction (decimals count) := by
  rw [ofMillionths]
  cases decimals count with
  | nil => rw [Numeral.fraction, List.append_nil]
  | cons digit rest => rfl

namespace Numeral

private theorem ofNumber_of_head?_eq_zero {number : ℕ}
    (zero : (Text.ofNumber number).head? = some '0') :
    Text.ofNumber number = ['0'] := by
  cases number with
  | zero => rfl
  | succ number => exact absurd zero (Text.head?_ofNumber_ne_zero number.succ_pos)

/-- The numeral of a count of millionths, where a sign is not for zero. -/
def ofCount (negative : Bool) (count : ℕ) (signed : negative = true → count ≠ 0) : Numeral where
  negative := negative
  whole := Text.ofNumber (count / million)
  part := decimals count
  wholePresent := Text.ofNumber_ne_nil _
  wholeDigits := Text.allDigits_ofNumber _
  noLeadingZero := ofNumber_of_head?_eq_zero
  partDigits := allDigits_decimals count
  fewDecimals := by
    obtain ⟨zeros, -, six⟩ := exists_sixDigits_eq count
    omega
  noTrailingZero := getLast?_decimals count
  unsignedZero := by
    rintro negative ⟨whole, part⟩
    have none : count / million = 0 := by
      rw [← Text.toNumber_ofNumber (count / million), whole]
      rfl
    have rest := mod_million_of_decimals_eq_nil part
    rw [← Nat.div_add_mod count million, none, rest] at signed
    exact signed negative rfl

section

variable (negative : Bool) (count : ℕ) (signed : negative = true → count ≠ 0)

theorem text_ofCount :
    (ofCount negative count signed).text = Number.signed negative (ofMillionths count) := by
  rw [ofMillionths_eq]
  rfl

theorem value_ofCount :
    (ofCount negative count signed).value = withSign negative ((count : ℚ) / 10 ^ 6) := by
  rw [← size_decimals]
  rfl

end

/-- The sign of a numeral as a text. -/
theorem signed_eq (negative : Bool) (digits : Text) :
    signed negative digits = (if negative then ['-'] else []) ++ digits := by
  cases negative <;> rfl

/-- A numeral in its shortest form as one of those that are read. -/
def spelling (numeral : Numeral) : Decimal.Spelling where
  sign := if numeral.negative then ['-'] else []
  whole := numeral.whole
  part? := if numeral.part = [] then none else some numeral.part
  exponent? := none
  knownSign := by cases numeral.negative <;> decide
  wholeDigits := numeral.wholeDigits
  partDigits := by
    intro part present
    obtain ⟨-, same⟩ := Option.ite_none_left_eq_some.mp present
    exact Option.some.inj same ▸ numeral.partDigits
  present := .inl numeral.wholePresent

private theorem text_spelling (numeral : Numeral) : numeral.spelling.text = numeral.text := by
  have points : Decimal.Spelling.pointed numeral.spelling.part? = fraction numeral.part := by
    change Decimal.Spelling.pointed (if numeral.part = [] then none else some numeral.part) = _
    cases numeral.part <;> rfl
  rw [Decimal.Spelling.text, points, text, signed_eq]
  exact congrArg _ (congrArg _ (List.append_nil _))

/-- A numeral is read as a decimal with the same digits. -/
theorem ofText?_text (numeral : Numeral) : Decimal.ofText? numeral.text =
    some ⟨numeral.negative, Text.toNumber (numeral.whole ++ numeral.part), -numeral.part.length⟩ := by
  have minus : (numeral.spelling.sign == ['-']) = numeral.negative := by
    change ((if numeral.negative then ['-'] else []) == ['-']) = numeral.negative
    cases numeral.negative <;> rfl
  have part : numeral.spelling.part = numeral.part := by
    change (if numeral.part = [] then none else some numeral.part).getD [] = numeral.part
    cases numeral.part <;> rfl
  rw [← text_spelling, Decimal.Spelling.ofText?_text, Decimal.Spelling.decimal, minus, part]
  simp [spelling, Decimal.Exponent.scale]

/-- A text denotes one value, however it is cut into a numeral. -/
theorem value_eq_of_text_eq {first second : Numeral} (same : first.text = second.text) :
    first.value = second.value := by
  have read := first.ofText?_text
  rw [same, second.ofText?_text, Option.some.injEq, Decimal.mk.injEq, neg_inj, Int.ofNat_inj] at read
  obtain ⟨sign, digits, length⟩ := read
  rw [value, value, size_eq, size_eq, sign, digits, length]

end Numeral

end FlatSheet.Number
