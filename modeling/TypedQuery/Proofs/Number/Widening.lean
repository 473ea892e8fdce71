import TypedQuery.Field.Vector
import TypedQuery.Proofs.Number.Nearest

/-! # Numbers that another format holds as well

A number keeps its pattern when it is written in its own format, and it keeps its value when it is
widened to a double. -/

namespace TypedQuery
set_option autoImplicit false

/-! ## Fractions -/

namespace Datum

theorem fraction_pos (s : Nat) (e : Int) : 0 < (fraction s e).2 := by
  unfold fraction
  split
  · exact Nat.one_pos
  · exact Nat.two_pow_pos _

theorem fraction_value (s : Nat) (e : Int) :
    ((fraction s e).1 : ℚ) / (fraction s e).2 = s * 2 ^ e := by
  unfold fraction
  split
  · have power : (2 : ℚ) ^ e = 2 ^ e.toNat := by
      rw [← zpow_natCast, Int.toNat_of_nonneg (by omega)]
    rw [power]
    push_cast [Nat.pow_eq]
    rw [div_one]
  · have power : (2 : ℚ) ^ e = (2 ^ (-e).toNat)⁻¹ := by
      rw [← zpow_natCast, ← zpow_neg, Int.toNat_of_nonneg (by omega), neg_neg]
    rw [power]
    push_cast [Nat.pow_eq]
    rw [div_eq_mul_inv]

end Datum

/-! ## Writing in the own format -/

namespace BinaryFormat

variable {f : BinaryFormat} {m : Nat}

theorem encode_finite (fine : 0 < f.fractionBits) (negative : Bool) (s : Nat) (e : Int) :
    ∃ m, f.encode (.finite negative s e) = f.signed negative m ∧ f.Nearest (s * 2 ^ e) m := by
  refine ⟨_, rfl, ?_⟩
  rw [← Datum.fraction_value]
  exact magnitudePattern_nearest fine _ (Datum.fraction_pos s e)

/-- A finite number whose value has a pattern is written as that pattern. -/
theorem encode_of_magnitude (fine : 0 < f.fractionBits) (negative : Bool) {s : Nat} {e : Int}
    (bounded : m ≤ f.infinityPattern) (value : f.magnitude m = s * 2 ^ e) :
    f.encode (.finite negative s e) = f.signed negative m := by
  obtain ⟨k, written, near⟩ := encode_finite fine negative s e
  rw [← value] at near
  rw [written, near.unique (nearest_magnitude bounded)]

theorem signed_infinity (f : BinaryFormat) (negative : Bool) :
    f.decode (f.signed negative f.infinityPattern) = .infinite negative := by
  rw [decode_signed negative le_rfl, datumOf, if_pos rfl]

theorem datumOf_of_lt (negative : Bool) (below : m < f.infinityPattern) :
    f.datumOf negative m = .finite negative (f.significand m) (f.place m) :=
  if_neg below.ne

/-! ## Single and double -/

theorem magnitude_infinity {e : Nat} (positive : 0 < f.exponentBits)
    (top : f.lowestExponent + (2 ^ f.exponentBits - 2 : Nat) + f.fractionBits = e) :
    f.magnitude f.infinityPattern = 2 ^ e := by
  have two : 2 ≤ 2 ^ f.exponentBits := Nat.pow_le_pow_right Nat.two_pos positive
  have split : f.infinityPattern
      = (2 ^ f.exponentBits - 2) * 2 ^ f.fractionBits + 2 ^ f.fractionBits := by
    have steps : 2 ^ f.exponentBits - 1 = 2 ^ f.exponentBits - 2 + 1 := by omega
    rw [infinityPattern, Nat.pow_eq, Nat.pow_eq, steps, Nat.add_mul, Nat.one_mul]
  have filled : 2 ^ f.fractionBits ≤ 2 ^ (f.fractionBits + 1) :=
    Nat.pow_le_pow_right Nat.two_pos (Nat.le_succ _)
  rw [split, magnitude_mul_add filled (.inr le_rfl), Nat.cast_pow, Nat.cast_ofNat, mul_comm,
    ← two_zpow_add_nat, top, zpow_natCast]

theorem magnitude_infinity_double : double.magnitude double.infinityPattern = 2 ^ 1024 :=
  magnitude_infinity (by decide) (by decide)

theorem magnitude_infinity_single : single.magnitude single.infinityPattern = 2 ^ 128 :=
  magnitude_infinity (by decide) (by decide)

/-- A whole factor of fifty-three bits in a place above the lowest is a double unless it is too
large. -/
theorem exists_double {s j : Nat} (short : s < 2 ^ 53)
    (bounded : (s : ℚ) * 2 ^ ((-1074 : Int) + j) < 2 ^ 1024) :
    ∃ m < double.infinityPattern, double.magnitude m = s * 2 ^ ((-1074 : Int) + j) := by
  have lowest : double.lowestExponent = -1074 := by decide
  obtain ⟨m, value⟩ := double.exists_magnitude (s := s) short j
  rw [lowest] at value
  refine ⟨m, ?_, value⟩
  rw [← value, ← magnitude_infinity_double] at bounded
  exact double.magnitude_strictMono.lt_iff_lt.1 bounded

end BinaryFormat

open BinaryFormat

/-- Every number that a component can hold is a double. -/
theorem ComponentType.exists_double (c : ComponentType) {m : Nat} (below : m < c.format.infinityPattern) :
    ∃ k < double.infinityPattern, double.magnitude k = c.format.magnitude m := by
  cases c with
  | float64 => exact ⟨m, below, rfl⟩
  | float32 =>
    have bounded : single.magnitude m < 2 ^ 128 := by
      rw [← magnitude_infinity_single]
      exact single.magnitude_strictMono below
    obtain ⟨j, s, rfl, short, filled⟩ := single.exists_place m
    have value := magnitude_mul_add short.le filled
    have lowest : single.lowestExponent = -149 := by decide
    have places : single.lowestExponent + (j : Int) = -1074 + (925 + j : Nat) := by
      rw [lowest]
      push_cast
      ring
    rw [places] at value
    have wide : s < 2 ^ 53 := short.trans (by decide)
    rw [value] at bounded
    obtain ⟨k, inside, same⟩ := BinaryFormat.exists_double wide
      (bounded.trans (pow_lt_pow_right₀ one_lt_two (by norm_num)))
    exact ⟨k, inside, same.trans value.symm⟩

theorem ComponentType.fine (c : ComponentType) : 0 < c.format.fractionBits := by
  cases c <;> decide

/-! ## Doubles -/

namespace Double

theorem double_fine : 0 < double.fractionBits := by decide

/-- A double of a value that has a pattern has this value. -/
theorem datum_ofDatum {negative : Bool} {s m : Nat} {e : Int} (below : m < double.infinityPattern)
    (value : double.magnitude m = s * 2 ^ e) :
    (ofDatum (.finite negative s e)).datum
      = .finite negative (double.significand m) (double.place m) := by
  rw [ofDatum, encode_of_magnitude double_fine negative below.le value,
    datum_of_signed negative below.le, datumOf_of_lt negative below]

theorem datum_infinite (negative : Bool) : (ofDatum (.infinite negative)).datum = .infinite negative := by
  rw [ofDatum, encode, datum_of_signed negative le_rfl, datumOf, if_pos rfl]

theorem datum_notANumber : (ofDatum .notANumber).datum = .notANumber := by decide

theorem datum_ofFraction_exact (negative : Bool) {num den m : Nat} (positive : 0 < den)
    (below : m < double.infinityPattern) (value : double.magnitude m = (num : ℚ) / den) :
    (ofFraction negative num den).datum
      = .finite negative (double.significand m) (double.place m) := by
  have near := magnitudePattern_nearest double_fine num positive
  rw [← value] at near
  rw [datum_ofFraction, near.unique (nearest_magnitude below.le), datumOf_of_lt negative below]

end Double

end TypedQuery
