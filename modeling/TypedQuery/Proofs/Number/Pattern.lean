import Mathlib.Algebra.Group.Nat.Defs
import TypedQuery.Number.Double

/-! # Patterns and what they stand for

A pattern up to that of infinity, with a sign before it, is read as infinity or as a finite number
made of a whole factor and a place. -/

namespace TypedQuery
set_option autoImplicit false

namespace BinaryFormat

/-- The whole factor of the magnitude of a pattern. -/
def significand (f : BinaryFormat) (m : Nat) : Nat :=
  if m / 2 ^ f.fractionBits = 0 then m % 2 ^ f.fractionBits
  else 2 ^ f.fractionBits + m % 2 ^ f.fractionBits

/-- The exponent of the last place of a pattern. -/
def place (f : BinaryFormat) (m : Nat) : Int :=
  f.lowestExponent + (m / 2 ^ f.fractionBits - 1 : Nat)

/-- What a magnitude with a sign stands for. -/
def datumOf (f : BinaryFormat) (negative : Bool) (m : Nat) : Datum :=
  if m = f.infinityPattern then .infinite negative
  else .finite negative (f.significand m) (f.place m)

variable {f : BinaryFormat} {m : Nat}

/-! ## Signs -/

theorem infinityPattern_lt (f : BinaryFormat) : f.infinityPattern < f.signPattern := by
  have top : f.signPattern = 2 ^ f.exponentBits * 2 ^ f.fractionBits := Nat.pow_add ..
  have positive : 0 < 2 ^ f.exponentBits := Nat.two_pow_pos _
  rw [top]
  exact Nat.mul_lt_mul_of_pos_right (Nat.sub_lt positive Nat.one_pos) (Nat.two_pow_pos _)

theorem two_pow_width (f : BinaryFormat) : 2 ^ f.width = f.signPattern + f.signPattern := by
  have width : f.width = f.exponentBits + f.fractionBits + 1 := by
    unfold width
    omega
  rw [width, Nat.pow_succ, Nat.mul_two]
  rfl

theorem signed_lt (negative : Bool) (below : m < f.signPattern) :
    f.signed negative m < 2 ^ f.width := by
  rw [two_pow_width]
  unfold signed
  split
  · omega
  · omega

theorem signed_mod (negative : Bool) (below : m < f.signPattern) :
    f.signed negative m % f.signPattern = m := by
  unfold signed
  split
  · rw [Nat.add_mod_left, Nat.mod_eq_of_lt below]
  · rw [Nat.mod_eq_of_lt below]

theorem signed_negative (negative : Bool) (below : m < f.signPattern) :
    decide (f.signPattern ≤ f.signed negative m) = negative := by
  cases negative with
  | false => simpa [signed] using below
  | true => simp [signed]

/-- A pattern is a sign and a magnitude. -/
theorem eq_signed {pattern : Nat} (bounded : pattern < 2 ^ f.width) :
    ∃ negative m, pattern = f.signed negative m ∧ m < f.signPattern := by
  rw [two_pow_width] at bounded
  by_cases high : f.signPattern ≤ pattern
  · refine ⟨true, pattern - f.signPattern, ?_, by omega⟩
    simp [signed, Nat.add_sub_cancel' high]
  · exact ⟨false, pattern, by simp [signed], by omega⟩

/-! ## Reading -/

theorem decode_signed (negative : Bool) (bounded : m ≤ f.infinityPattern) :
    f.decode (f.signed negative m) = f.datumOf negative m := by
  have below : m < f.signPattern := Nat.lt_of_le_of_lt bounded f.infinityPattern_lt
  have sign := signed_negative negative below
  unfold decode datumOf
  dsimp only
  rw [signed_mod negative below, sign, if_neg (by omega)]
  by_cases top : m = f.infinityPattern
  · rw [if_pos top, if_pos top]
  · rw [if_neg top, if_neg top]
    by_cases low : m / 2 ^ f.fractionBits = 0
    · simp [significand, place, low]
    · have step : ∀ field : Nat, field ≠ 0 → ((field - 1 : Nat) : Int) = field - 1 := by omega
      simp only [Nat.pow_eq, significand, place, low, if_false, step _ low]

theorem decode_large (negative : Bool) (below : m < f.signPattern) (large : f.infinityPattern < m) :
    f.decode (f.signed negative m) = .notANumber := by
  unfold decode
  dsimp only
  rw [signed_mod negative below, if_pos large]

theorem magnitudePattern_le (f : BinaryFormat) (num den : Nat) :
    f.magnitudePattern num den ≤ f.infinityPattern := Nat.min_le_right ..

end BinaryFormat

/-! ## Doubles -/

namespace Double

open BinaryFormat (double)

theorem datum_of_bits {pattern : Nat} (bounded : pattern < 2 ^ 64) :
    datum ⟨UInt64.ofNat pattern⟩ = double.decode pattern := by
  rw [datum, UInt64.toNat_ofNat', Nat.mod_eq_of_lt bounded]

theorem datum_of_signed (negative : Bool) {m : Nat} (bounded : m ≤ double.infinityPattern) :
    datum ⟨UInt64.ofNat (double.signed negative m)⟩ = double.datumOf negative m := by
  have below : m < double.signPattern := Nat.lt_of_le_of_lt bounded double.infinityPattern_lt
  rw [datum_of_bits (BinaryFormat.signed_lt negative below),
    BinaryFormat.decode_signed negative bounded]

theorem datum_ofFraction (negative : Bool) (num den : Nat) :
    (ofFraction negative num den).datum
      = double.datumOf negative (double.magnitudePattern num den) :=
  datum_of_signed negative (BinaryFormat.magnitudePattern_le ..)

/-- Rounding a fraction always gives a number. -/
theorem isNotANumber_ofFraction (negative : Bool) (num den : Nat) :
    (ofFraction negative num den).isNotANumber = false := by
  rw [isNotANumber, datum_ofFraction, beq_eq_false_iff_ne, BinaryFormat.datumOf]
  split
  · exact Datum.noConfusion
  · exact Datum.noConfusion

end Double

end TypedQuery
