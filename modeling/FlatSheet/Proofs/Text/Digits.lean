import FlatSheet.Proofs.Text.Cutting
import FlatSheet.Text.Digits
import Mathlib.Algebra.Group.Nat.Defs
import Mathlib.Data.List.Induction

/-! # Digits and the numbers that they denote

A run of digits is the shortest text of its number after some zeros. So a number is written in as
many ways as there are counts of leading zeros, and the shortest way is the only one without any,
zero itself apart. A sign may stand in front, and digits do not look like one.
-/

namespace FlatSheet

theorem isDigit_iff (digit : Char) :
    digit.isDigit = true ↔ 48 ≤ digit.toNat ∧ digit.toNat ≤ 57 := by
  change (decide (digit.val ≥ 48) && decide (digit.val ≤ 57)) = true ↔ _
  simp only [Bool.and_eq_true, decide_eq_true_eq, ge_iff_le, UInt32.le_iff_toNat_le]
  rfl

theorem not_isBlank_of_isDigit {digit : Char} (isDigit : digit.isDigit = true) :
    isBlank digit = false := by
  rw [isDigit_iff] at isDigit
  simp only [isBlank, Bool.or_eq_false_iff, Bool.and_eq_false_iff, decide_eq_false_iff_not,
    beq_eq_false_iff_ne]
  omega

theorem not_isDigit_of_isBlank {char : Char} (blank : isBlank char = true) :
    char.isDigit = false := by
  refine Bool.eq_false_iff.mpr fun isDigit => ?_
  rw [not_isBlank_of_isDigit isDigit] at blank
  contradiction

private theorem exists_digitChar_eq {digit : Char} (isDigit : digit.isDigit = true) :
    ∃ number < 10, digit = Nat.digitChar number := by
  rw [isDigit_iff] at isDigit
  have codes : ∀ number < 10, (Nat.digitChar number).toNat = 48 + number := by decide
  refine ⟨digit.toNat - 48, by omega, Char.toNat_inj.mp ?_⟩
  rw [codes _ (by omega)]
  omega

namespace Text

/-- Decimal digits only. -/
def AllDigits (text : Text) : Prop := ∀ digit ∈ text, digit.isDigit = true

instance (text : Text) : Decidable text.AllDigits :=
  decidable_of_iff (text.all Char.isDigit = true) List.all_eq_true

theorem allDigits_ofNumber (number : Nat) : (ofNumber number).AllDigits :=
  fun _ member => Nat.isDigit_of_mem_toDigits (by decide) (by decide) member

theorem ofNumber_ne_nil (number : Nat) : ofNumber number ≠ [] := Nat.toDigits_ne_nil

theorem ofNumber_of_lt_ten {number : Nat} (small : number < 10) :
    ofNumber number = [Nat.digitChar number] :=
  Nat.toDigits_of_lt_base small

/-- One more digit at the end is ten times the number and the digit. -/
theorem ofNumber_concat {number digit : Nat} (positive : 0 < number) (small : digit < 10) :
    ofNumber (10 * number + digit) = ofNumber number ++ [Nat.digitChar digit] := by
  rw [ofNumber, ← Nat.toDigits_append_toDigits (by decide) positive small,
    Nat.toDigits_of_lt_base small]
  rfl

/-- The fewest digits of a positive number start with no zero. -/
theorem head?_ofNumber_ne_zero {number : Nat} (positive : 0 < number) :
    (ofNumber number).head? ≠ some '0' := by
  induction number using Nat.strongRecOn with
  | ind number ih =>
    by_cases small : number < 10
    · have nonzero : ∀ digit < 10, Nat.digitChar digit = '0' → digit = 0 := by decide
      rw [ofNumber_of_lt_ten small]
      intro zero
      have := nonzero number small (Option.some.inj zero)
      omega
    · have front : 0 < number / 10 := by omega
      have split : number = 10 * (number / 10) + number % 10 := by omega
      rw [split, ofNumber_concat front (by omega)]
      obtain ⟨first, rest, same⟩ := List.exists_cons_of_ne_nil (ofNumber_ne_nil (number / 10))
      have other := ih (number / 10) (by omega) front
      rwa [same] at other ⊢

private theorem toNumber_concat (digits : Text) {digit : Nat} (small : digit < 10) :
    toNumber (digits ++ [Nat.digitChar digit]) = 10 * toNumber digits + digit := by
  rw [toNumber, Nat.ofDigitChars_append, Nat.ofDigitChars_cons_digitChar_of_lt_ten small,
    Nat.ofDigitChars_nil]
  rfl

/-- Leading zeros do not count. -/
theorem toNumber_zeros_append (zeros : Nat) (digits : Text) :
    toNumber (List.replicate zeros '0' ++ digits) = toNumber digits := by
  rw [toNumber, Nat.ofDigitChars_append, Nat.ofDigitChars_replicate_zero, Nat.mul_zero]
  rfl

/-- Digits count by the digits behind them. -/
theorem toNumber_append (front back : Text) :
    toNumber (front ++ back) = toNumber front * 10 ^ back.length + toNumber back := by
  rw [toNumber, Nat.ofDigitChars_append, Nat.ofDigitChars_eq_ofDigitChars_zero, Nat.mul_comm]
  rfl

/-- Zeros at the end are powers of ten. -/
theorem toNumber_append_zeros (digits : Text) (zeros : Nat) :
    toNumber (digits ++ List.replicate zeros '0') = toNumber digits * 10 ^ zeros := by
  rw [toNumber, Nat.ofDigitChars_append, Nat.ofDigitChars_replicate_zero, Nat.mul_comm]
  rfl

/-- A run of digits is zeros and the shortest text of its number. -/
theorem exists_zeros_append_ofNumber {digits : Text} (allDigits : digits.AllDigits) :
    ∃ zeros, digits = List.replicate zeros '0' ++
      if toNumber digits = 0 then [] else ofNumber (toNumber digits) := by
  induction digits using List.reverseRecOn with
  | nil => exact ⟨0, rfl⟩
  | append_singleton front last ih =>
    obtain ⟨digit, small, rfl⟩ := exists_digitChar_eq (allDigits last (by simp))
    obtain ⟨zeros, split⟩ := ih fun other member => allDigits other (by simp [member])
    rw [toNumber_concat front small]
    generalize toNumber front = number at split ⊢
    subst split
    by_cases none : number = 0
    · subst none
      by_cases zero : digit = 0
      · subst zero
        exact ⟨zeros + 1, by simp [List.replicate_succ']⟩
      · exact ⟨zeros, by simp [zero, ofNumber_of_lt_ten small]⟩
    · refine ⟨zeros, ?_⟩
      rw [if_neg none, if_neg (by omega), ofNumber_concat (by omega) small, List.append_assoc]

/-- A run of digits ends where another character follows. -/
theorem spanDigits_append {digits rest : Text} (allDigits : digits.AllDigits)
    (ended : ∀ char ∈ rest.head?, char.isDigit = false) :
    spanDigits (digits ++ rest) = (digits, rest) := by
  rw [spanDigits, takeWhile_append_of_ended allDigits ended, dropWhile_append_of_ended allDigits ended]

theorem spanDigits_eq_self {digits : Text} (allDigits : digits.AllDigits) :
    spanDigits digits = (digits, []) := by
  have alone : spanDigits (digits ++ []) = (digits, []) := spanDigits_append allDigits (by simp)
  rwa [List.append_nil] at alone

/-- What may stand before the digits of a number. -/
def signs : List Text := [[], ['+'], ['-']]

/-- A sign is taken off, and only a minus makes negative. What follows no sign may not look like
one. -/
theorem spanSign_append {sign rest : Text} (known : sign ∈ signs)
    (unsigned : sign = [] → ∀ char ∈ rest.head?, char ≠ '-' ∧ char ≠ '+') :
    spanSign (sign ++ rest) = (sign == ['-'], rest) := by
  simp only [signs, List.mem_cons, List.not_mem_nil, or_false] at known
  rcases known with rfl | rfl | rfl
  · cases rest with
    | nil => rfl
    | cons char rest => simp [spanSign, unsigned rfl char rfl]
  · rfl
  · rfl

/-- Every text has a sign, which may be empty, taken off. -/
theorem exists_sign_append (text : Text) : ∃ sign ∈ signs, ∃ rest, text = sign ++ rest ∧
    (sign = [] → ∀ char ∈ rest.head?, char ≠ '-' ∧ char ≠ '+') := by
  by_cases minus : text.head? = some '-'
  · obtain ⟨rest, rfl⟩ := List.head?_eq_some_iff.mp minus
    exact ⟨['-'], by decide, rest, rfl, by simp⟩
  · by_cases plus : text.head? = some '+'
    · obtain ⟨rest, rfl⟩ := List.head?_eq_some_iff.mp plus
      exact ⟨['+'], by decide, rest, rfl, by simp⟩
    · refine ⟨[], by decide, text, rfl, fun _ char first => ⟨?_, ?_⟩⟩
      · rintro rfl
        exact minus first
      · rintro rfl
        exact plus first

theorem ne_sign_of_isDigit {digit : Char} (isDigit : digit.isDigit = true) :
    digit ≠ '-' ∧ digit ≠ '+' := by
  constructor <;> rintro rfl <;> contradiction

/-- Digits do not look like a sign. -/
theorem spanSign_append_digits {sign digits : Text} (known : sign ∈ signs) (nonempty : digits ≠ [])
    (allDigits : digits.AllDigits) (rest : Text) :
    spanSign (sign ++ digits ++ rest) = (sign == ['-'], digits ++ rest) := by
  obtain ⟨digit, others, rfl⟩ := List.exists_cons_of_ne_nil nonempty
  rw [List.append_assoc]
  refine spanSign_append known fun _ char first => ?_
  obtain rfl : digit = char := Option.some.inj first
  exact ne_sign_of_isDigit (allDigits digit List.mem_cons_self)

end Text

end FlatSheet
