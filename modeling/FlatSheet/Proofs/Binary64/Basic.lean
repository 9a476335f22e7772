import FlatSheet.Binary64.Basic
import Mathlib

/-! # Numbers and their bit patterns

A number is its sign and its place: put together again they give the number, and up to infinity they
are found again in what was put together. Of the numbers only the two zeros equal zero.
-/

namespace FlatSheet.Binary64

/-- The sign and the place of a number make it up. -/
theorem atPlace_place (number : Float) : atPlace (isNegative number) (place number) = number := by
  have bits : (if isNegative number then signBit + place number else place number) =
      number.toBits.toNat := by
    have below := number.toBits.toNat_lt
    cases sign : isNegative number with
    | true =>
      have negative : signBit ≤ number.toBits.toNat := by simpa [isNegative] using sign
      rw [if_pos rfl, place]
      simp only [signBit] at negative ⊢
      omega
    | false =>
      have positive : number.toBits.toNat < signBit := by simpa [isNegative] using sign
      rw [if_neg (by simp), place, Nat.mod_eq_of_lt positive]
  rw [atPlace, bits, UInt64.ofNat_toNat, Float.ofBits_toBits]

section

open Float.Model (Format)
open Float.Model.UnpackedFloat

/-- A bit pattern up to that of infinity, its sign aside, is kept as it is. -/
theorem toBits_ofBits {bits : UInt64} (known : bits.toNat % signBit ≤ topPlace) :
    (Float.ofBits bits).toBits = bits := by
  have ordinary : @isNaNBits Format.binary64 bits.toBitVec = false := by
    rw [isNaNBits, decide_eq_false_iff_not, unpackExponent_def, unpackMantissa_def]
    rintro ⟨exponent, fraction⟩
    apply fraction
    have full := congrArg BitVec.toNat exponent
    apply BitVec.eq_of_toNat_eq
    simp only [BitVec.extractLsb'_toNat, UInt64.toNat_toBitVec, Nat.shiftRight_eq_div_pow] at full ⊢
    change bits.toNat / 2 ^ 52 % 2 ^ 11 = 2047 at full
    change bits.toNat / 2 ^ 0 % 2 ^ 52 = 0
    simp only [signBit, topPlace, binade] at known
    omega
  apply UInt64.toBitVec_inj.mp
  change pack Format.binary64 (unpack Format.binary64 bits.toBitVec) = _
  rw [pack_unpack, ordinary]
  rfl

end

section

variable (negative : Bool) {place : Nat} (known : place ≤ topPlace)

include known

theorem toNat_toBits_atPlace :
    (atPlace negative place).toBits.toNat = if negative then signBit + place else place := by
  have bound : place < signBit := Nat.lt_of_le_of_lt known (by decide)
  have bits : (UInt64.ofNat (if negative then signBit + place else place)).toNat =
      if negative then signBit + place else place := by
    rw [UInt64.toNat_ofNat']
    apply Nat.mod_eq_of_lt
    simp only [signBit] at bound ⊢
    split <;> omega
  rw [atPlace, toBits_ofBits, bits]
  rw [bits]
  split
  · rwa [Nat.add_mod_left, Nat.mod_eq_of_lt bound]
  · rwa [Nat.mod_eq_of_lt bound]

theorem place_atPlace : Binary64.place (atPlace negative place) = place := by
  have bound : place < signBit := Nat.lt_of_le_of_lt known (by decide)
  rw [Binary64.place, toNat_toBits_atPlace negative known]
  split
  · rw [Nat.add_mod_left, Nat.mod_eq_of_lt bound]
  · exact Nat.mod_eq_of_lt bound

theorem isNegative_atPlace : isNegative (atPlace negative place) = negative := by
  have bound : place < signBit := Nat.lt_of_le_of_lt known (by decide)
  rw [isNegative, toNat_toBits_atPlace negative known]
  cases negative
  · simpa using bound
  · simp

theorem isFinite_atPlace_iff : isFinite (atPlace negative place) = true ↔ place < topPlace := by
  rw [isFinite, place_atPlace negative known, decide_eq_true_eq]

end

/-- The two zeros, and no other number, equal zero. -/
theorem beq_zero_iff (number : Float) : (number == 0) = true ↔ number = 0 ∨ number = -0 := by
  rw [Float.beq_iff_ne_nan_and_eq]
  have zero : (0 : Float) ≠ Float.nan := by decide +kernel
  have negative : (-0 : Float) ≠ Float.nan := by decide +kernel
  have signs : (0 : Float) ≠ -0 := by decide +kernel
  constructor
  · rintro ⟨-, -, same | ⟨-, same⟩ | ⟨same, -⟩⟩
    · exact .inl same
    · exact absurd same signs
    · exact .inr same
  · rintro (rfl | rfl)
    · exact ⟨zero, zero, .inl rfl⟩
    · exact ⟨negative, zero, .inr (.inr ⟨rfl, rfl⟩)⟩

end FlatSheet.Binary64
