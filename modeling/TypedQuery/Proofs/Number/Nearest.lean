import Mathlib.Algebra.Order.Field.Power
import Mathlib.Algebra.Order.Field.Rat
import Mathlib.Tactic.FieldSimp
import Mathlib.Tactic.Linarith
import Mathlib.Tactic.Positivity
import Mathlib.Tactic.Ring
import TypedQuery.Proofs.Number.Pattern

/-! # Rounding to the nearest pattern

The magnitudes of patterns grow with the patterns. The pattern that is chosen for a fraction is the
nearest one, a tie going to the even pattern, so that a magnitude of the format keeps its pattern. -/

namespace TypedQuery
set_option autoImplicit false

/-! ## Rounding a quotient -/

/-- What a quotient has beyond its whole part decides which neighbour it is rounded to. -/
theorem roundQuotient_cases (num : Nat) {den : Nat} (positive : 0 < den) :
    ∃ q : Nat, ∃ r : ℚ, (num : ℚ) / den = q + r ∧ 0 ≤ r
      ∧ ((roundQuotient num den = q ∧ r ≤ 1 / 2 ∧ (r = 1 / 2 → q % 2 = 0))
        ∨ (roundQuotient num den = q + 1 ∧ 1 / 2 ≤ r ∧ r < 1 ∧ (r = 1 / 2 → q % 2 = 1))) := by
  have den_pos : (0 : ℚ) < den := by exact_mod_cast positive
  have split : num = den * (num / den) + num % den := (Nat.div_add_mod num den).symm
  have below : num % den < den := Nat.mod_lt num positive
  have whole : (num : ℚ) / den = (num / den : Nat) + (num % den : Nat) / (den : ℚ) := by
    have cast : (num : ℚ) = den * (num / den : Nat) + (num % den : Nat) := by exact_mod_cast split
    rw [div_eq_iff den_pos.ne', add_mul, div_mul_cancel₀ _ den_pos.ne', mul_comm _ (den : ℚ)]
    exact cast
  refine ⟨num / den, (num % den : Nat) / (den : ℚ), whole, by positivity, ?_⟩
  rw [div_le_iff₀ den_pos, le_div_iff₀ den_pos, div_lt_iff₀ den_pos, div_eq_iff den_pos.ne']
  have half : ∀ a b : Nat, ((a : ℚ) ≤ 1 / 2 * b ↔ 2 * a ≤ b) ∧ (1 / 2 * (b : ℚ) ≤ a ↔ b ≤ 2 * a)
      ∧ ((a : ℚ) = 1 / 2 * b ↔ 2 * a = b) := by
    intro a b
    refine ⟨?_, ?_, ?_⟩
    · rw [← Nat.cast_le (α := ℚ)]
      push_cast
      constructor <;> intro h <;> linarith
    · rw [← Nat.cast_le (α := ℚ)]
      push_cast
      constructor <;> intro h <;> linarith
    · rw [← Nat.cast_inj (R := ℚ)]
      push_cast
      constructor <;> intro h <;> linarith
  obtain ⟨up, down, tie⟩ := half (num % den) den
  rw [up, down, tie, one_mul, Nat.cast_lt]
  unfold roundQuotient
  dsimp only
  split
  · omega
  · split
    · omega
    · split
      · omega
      · omega

/-- No natural is nearer to a quotient than its rounding, and one as near leaves it even. -/
theorem roundQuotient_nearest (num : Nat) {den : Nat} (positive : 0 < den) (z : Nat) :
    |(num : ℚ) / den - roundQuotient num den| ≤ |(num : ℚ) / den - z|
      ∧ (z ≠ roundQuotient num den →
        |(num : ℚ) / den - z| = |(num : ℚ) / den - roundQuotient num den| →
        roundQuotient num den % 2 = 0) := by
  obtain ⟨q, r, value, nonneg, ⟨rounded, small, tie⟩ | ⟨rounded, large, below, tie⟩⟩ :=
    roundQuotient_cases num positive
  · have near : |(num : ℚ) / den - roundQuotient num den| = r := by
      rw [value, rounded, add_sub_cancel_left, abs_of_nonneg nonneg]
    rw [near, rounded, value]
    rcases Nat.lt_trichotomy z q with lower | rfl | upper
    · have gap : (z : ℚ) + 1 ≤ q := by exact_mod_cast lower
      rw [abs_of_nonneg (by linarith)]
      exact ⟨by linarith, fun _ same => by linarith⟩
    · rw [add_sub_cancel_left, abs_of_nonneg nonneg]
      exact ⟨le_rfl, fun other => absurd rfl other⟩
    · have gap : (q : ℚ) + 1 ≤ z := by exact_mod_cast upper
      rw [abs_of_nonpos (by linarith)]
      exact ⟨by linarith, fun _ same => tie (by linarith)⟩
  · have near : |(num : ℚ) / den - roundQuotient num den| = 1 - r := by
      rw [value, rounded, abs_of_nonpos (by push_cast; linarith)]
      push_cast
      ring
    rw [near, rounded, value]
    rcases Nat.lt_trichotomy z (q + 1) with lower | rfl | upper
    · have gap : (z : ℚ) ≤ q := by exact_mod_cast Nat.le_of_lt_succ lower
      rw [abs_of_nonneg (by linarith)]
      refine ⟨by linarith, fun _ same => ?_⟩
      have odd := tie (by linarith)
      omega
    · rw [abs_of_nonpos (by push_cast; linarith)]
      exact ⟨by push_cast; linarith, fun other => absurd rfl other⟩
    · have gap : (q : ℚ) + 1 + 1 ≤ z := by exact_mod_cast upper
      rw [abs_of_nonpos (by linarith)]
      exact ⟨by linarith, fun _ same => by linarith⟩

theorem roundQuotient_le {num den bound : Nat} (positive : 0 < den) (h : num < bound * den) :
    roundQuotient num den ≤ bound := by
  have below : num / den < bound := (Nat.div_lt_iff_lt_mul positive).2 h
  unfold roundQuotient
  dsimp only
  split
  · omega
  · split
    · omega
    · split
      · omega
      · omega

theorem le_roundQuotient {num den bound : Nat} (positive : 0 < den) (h : bound * den ≤ num) :
    bound ≤ roundQuotient num den := by
  have above : bound ≤ num / den := (Nat.le_div_iff_mul_le positive).2 h
  unfold roundQuotient
  dsimp only
  split
  · omega
  · split
    · omega
    · split
      · omega
      · omega

/-! ## Magnitudes -/

namespace BinaryFormat

/-- The number that the magnitude of a pattern stands for. Infinity counts as the number that would
come after the largest finite one. -/
def magnitude (f : BinaryFormat) (m : Nat) : ℚ := f.significand m * 2 ^ f.place m

variable {f : BinaryFormat}

theorem two_zpow_pos (e : Int) : (0 : ℚ) < 2 ^ e := zpow_pos two_pos e

theorem two_zpow_add_nat (e : Int) (k : Nat) : (2 : ℚ) ^ (e + k) = 2 ^ e * 2 ^ k := by
  rw [zpow_add₀ two_ne_zero, zpow_natCast]

/-- A whole factor that fills its place, or stands in the lowest one, has a pattern. It may also be
the first one that is too large for its place. -/
theorem magnitude_mul_add {j s : Nat} (fits : s ≤ 2 ^ (f.fractionBits + 1))
    (filled : j = 0 ∨ 2 ^ f.fractionBits ≤ s) :
    f.magnitude (j * 2 ^ f.fractionBits + s) = s * 2 ^ (f.lowestExponent + j) := by
  have unit : 0 < 2 ^ f.fractionBits := Nat.two_pow_pos _
  have double : 2 ^ (f.fractionBits + 1) = 2 ^ f.fractionBits + 2 ^ f.fractionBits := by
    rw [Nat.pow_succ, Nat.mul_two]
  unfold magnitude significand place
  generalize 2 ^ f.fractionBits = b at *
  by_cases small : s < b
  · obtain rfl : j = 0 := by omega
    simp [Nat.div_eq_of_lt small, Nat.mod_eq_of_lt small]
  · by_cases carried : s = b + b
    · have quotient : (j * b + s) / b = j + 2 := by
        rw [carried, ← Nat.two_mul, ← Nat.add_mul, Nat.mul_div_cancel _ unit]
      have rest : (j * b + s) % b = 0 := by
        rw [carried, ← Nat.two_mul, ← Nat.add_mul, Nat.mul_mod_left]
      rw [quotient, rest, if_neg (by omega), carried]
      have next : f.lowestExponent + ((j + 2 - 1 : Nat) : Int) = f.lowestExponent + j + (1 : Nat) := by
        omega
      rw [next, two_zpow_add_nat]
      push_cast
      ring
    · have low : s - b < b := by omega
      have shape : j * b + s = (s - b) + b * (j + 1) := by
        have expand : b * (j + 1) = j * b + b := by ring
        omega
      have quotient : (j * b + s) / b = j + 1 := by
        rw [shape, Nat.add_mul_div_left _ _ unit, Nat.div_eq_of_lt low]
        omega
      have rest : (j * b + s) % b = s - b := by
        rw [shape, Nat.add_mul_mod_self_left, Nat.mod_eq_of_lt low]
      rw [quotient, rest, if_neg (by omega), Nat.add_sub_cancel, Nat.add_sub_cancel' (by omega)]

/-- Every pattern is a place and a whole factor that fills it, or the lowest place. -/
theorem exists_place (f : BinaryFormat) (m : Nat) :
    ∃ j s, m = j * 2 ^ f.fractionBits + s ∧ s < 2 ^ (f.fractionBits + 1)
      ∧ (j = 0 ∨ 2 ^ f.fractionBits ≤ s) := by
  have unit : 0 < 2 ^ f.fractionBits := Nat.two_pow_pos _
  have split : 2 ^ f.fractionBits * (m / 2 ^ f.fractionBits) + m % 2 ^ f.fractionBits = m :=
    Nat.div_add_mod ..
  have rest : m % 2 ^ f.fractionBits < 2 ^ f.fractionBits := Nat.mod_lt _ unit
  rw [Nat.pow_succ, Nat.mul_two]
  generalize 2 ^ f.fractionBits = b at *
  cases h : m / b with
  | zero => exact ⟨0, m % b, by rw [h] at split; omega, by omega, .inl rfl⟩
  | succ j =>
    refine ⟨j, b + m % b, ?_, by omega, .inr (by omega)⟩
    rw [h, Nat.mul_succ, Nat.mul_comm] at split
    omega

theorem magnitude_lt_succ (f : BinaryFormat) (m : Nat) : f.magnitude m < f.magnitude (m + 1) := by
  obtain ⟨j, s, rfl, fits, filled⟩ := f.exists_place m
  have next : f.magnitude (j * 2 ^ f.fractionBits + s + 1)
      = (s + 1 : Nat) * 2 ^ (f.lowestExponent + j) :=
    magnitude_mul_add (j := j) (s := s + 1) fits (filled.imp_right Nat.le_succ_of_le)
  rw [next, magnitude_mul_add fits.le filled]
  have step : (s : ℚ) < (s + 1 : Nat) := by exact_mod_cast Nat.lt_succ_self s
  exact mul_lt_mul_of_pos_right step (two_zpow_pos _)

theorem magnitude_strictMono (f : BinaryFormat) : StrictMono f.magnitude :=
  strictMono_nat_of_lt_succ f.magnitude_lt_succ

/-- Every whole factor that is short enough has a pattern in any place. -/
theorem exists_magnitude (f : BinaryFormat) {s : Nat} (short : s < 2 ^ (f.fractionBits + 1))
    (j : Nat) : ∃ m, f.magnitude m = s * 2 ^ (f.lowestExponent + j) := by
  induction j generalizing s with
  | zero => exact ⟨0 * 2 ^ f.fractionBits + s, magnitude_mul_add short.le (.inl rfl)⟩
  | succ j ih =>
    by_cases filled : 2 ^ f.fractionBits ≤ s
    · exact ⟨_, magnitude_mul_add (j := j + 1) short.le (.inr filled)⟩
    · -- a factor that is too small for its place is doubled and moves down
      have shorter : 2 * s < 2 ^ (f.fractionBits + 1) := by
        rw [Nat.pow_succ, Nat.mul_two]
        omega
      obtain ⟨m, value⟩ := ih shorter
      refine ⟨m, ?_⟩
      rw [value, Nat.cast_succ, ← add_assoc, zpow_add_one₀ two_ne_zero]
      push_cast
      ring

/-- A magnitude stands on the grid of a place, or lies below the numbers that fill the place. -/
theorem magnitude_on_grid (f : BinaryFormat) (m j : Nat) :
    (∃ z : Nat, f.magnitude m = z * 2 ^ (f.lowestExponent + j))
      ∨ (j ≠ 0 ∧ f.magnitude m < 2 ^ f.fractionBits * 2 ^ (f.lowestExponent + j)) := by
  obtain ⟨i, s, rfl, fits, filled⟩ := f.exists_place m
  rw [magnitude_mul_add fits.le filled]
  by_cases coarse : j ≤ i
  · left
    refine ⟨s * 2 ^ (i - j), ?_⟩
    have sum : f.lowestExponent + (i : Int) = f.lowestExponent + j + (i - j : Nat) := by omega
    rw [sum, two_zpow_add_nat]
    push_cast
    ring
  · right
    refine ⟨by omega, ?_⟩
    have sum : f.lowestExponent + (j : Int) = f.lowestExponent + i + 1 + (j - i - 1 : Nat) := by omega
    have room : (1 : ℚ) ≤ 2 ^ (j - i - 1) := one_le_pow₀ one_le_two
    have short : (s : ℚ) < 2 ^ f.fractionBits * 2 := by
      rw [← pow_succ]
      exact_mod_cast fits
    calc (s : ℚ) * 2 ^ (f.lowestExponent + i)
        < 2 ^ f.fractionBits * 2 * 2 ^ (f.lowestExponent + i) :=
          mul_lt_mul_of_pos_right short (two_zpow_pos _)
      _ = 2 ^ f.fractionBits * 2 ^ (f.lowestExponent + i + 1) := by
          rw [zpow_add_one₀ two_ne_zero]
          ring
      _ ≤ 2 ^ f.fractionBits * (2 ^ (f.lowestExponent + i + 1) * 2 ^ (j - i - 1)) := by
          have grown := le_mul_of_one_le_right (two_zpow_pos (f.lowestExponent + i + 1)).le room
          exact mul_le_mul_of_nonneg_left grown (by positivity)
      _ = 2 ^ f.fractionBits * 2 ^ (f.lowestExponent + j) := by
          rw [sum, two_zpow_add_nat]

/-! ## Places of fractions -/

theorem two_zpow_le_iff (num : Nat) {den : Nat} (positive : 0 < den) (e : Int) :
    (if 0 ≤ e then den * Nat.pow 2 e.toNat ≤ num else den ≤ num * Nat.pow 2 (-e).toNat)
      ↔ (2 : ℚ) ^ e ≤ (num : ℚ) / den := by
  have den_pos : (0 : ℚ) < den := by exact_mod_cast positive
  rw [le_div_iff₀ den_pos]
  split
  · have power : (2 : ℚ) ^ e = 2 ^ e.toNat := by
      rw [← zpow_natCast, Int.toNat_of_nonneg (by omega)]
    rw [power, mul_comm]
    exact_mod_cast Iff.rfl
  · have power : (2 : ℚ) ^ e = (2 ^ (-e).toNat)⁻¹ := by
      rw [← zpow_natCast, ← zpow_neg, Int.toNat_of_nonneg (by omega), neg_neg]
    rw [power, inv_mul_le_iff₀ (by positivity), mul_comm]
    exact_mod_cast Iff.rfl

/-- A positive fraction lies near the power of two that its numerator and denominator suggest. -/
theorem log2_quotient {num den : Nat} (numerator : 0 < num) (positive : 0 < den) :
    (2 : ℚ) ^ ((Nat.log2 num : Int) - Nat.log2 den - 1) ≤ (num : ℚ) / den
      ∧ (num : ℚ) / den < 2 ^ ((Nat.log2 num : Int) - Nat.log2 den + 1) := by
  have den_pos : (0 : ℚ) < den := by exact_mod_cast positive
  have num_low : (2 : ℚ) ^ (Nat.log2 num : Int) ≤ num := by
    rw [zpow_natCast]
    exact_mod_cast Nat.log2_self_le numerator.ne'
  have num_high : (num : ℚ) < 2 ^ ((Nat.log2 num : Int) + 1) := by
    have bound : num < 2 ^ (Nat.log2 num + 1) := Nat.lt_log2_self
    exact_mod_cast bound
  have den_low : (2 : ℚ) ^ (Nat.log2 den : Int) ≤ den := by
    rw [zpow_natCast]
    exact_mod_cast Nat.log2_self_le positive.ne'
  have den_high : (den : ℚ) ≤ 2 ^ ((Nat.log2 den : Int) + 1) := by
    have bound : den < 2 ^ (Nat.log2 den + 1) := Nat.lt_log2_self
    exact_mod_cast bound.le
  constructor
  · rw [le_div_iff₀ den_pos]
    calc (2 : ℚ) ^ ((Nat.log2 num : Int) - Nat.log2 den - 1) * den
        ≤ 2 ^ ((Nat.log2 num : Int) - Nat.log2 den - 1) * 2 ^ ((Nat.log2 den : Int) + 1) :=
          mul_le_mul_of_nonneg_left den_high (two_zpow_pos _).le
      _ = 2 ^ (Nat.log2 num : Int) := by
          rw [← zpow_add₀ two_ne_zero]
          ring_nf
      _ ≤ num := num_low
  · rw [div_lt_iff₀ den_pos]
    calc (num : ℚ) < 2 ^ ((Nat.log2 num : Int) + 1) := num_high
      _ = 2 ^ ((Nat.log2 num : Int) - Nat.log2 den + 1) * 2 ^ (Nat.log2 den : Int) := by
          rw [← zpow_add₀ two_ne_zero]
          ring_nf
      _ ≤ 2 ^ ((Nat.log2 num : Int) - Nat.log2 den + 1) * den :=
          mul_le_mul_of_nonneg_left den_low (two_zpow_pos _).le

/-- The estimate of the leading place from the lengths is right, or one too large. -/
theorem placeOf_top (f : BinaryFormat) {num den : Nat} (numerator : 0 < num) (positive : 0 < den) :
    ∃ top : Int, f.placeOf num den = max (top - f.fractionBits) f.lowestExponent
      ∧ (2 : ℚ) ^ top ≤ (num : ℚ) / den ∧ (num : ℚ) / den < 2 ^ (top + 1) := by
  obtain ⟨low, high⟩ := log2_quotient numerator positive
  have test := two_zpow_le_iff num positive ((Nat.log2 num : Int) - Nat.log2 den)
  unfold placeOf
  dsimp only
  rw [if_neg numerator.ne']
  by_cases reached : (2 : ℚ) ^ ((Nat.log2 num : Int) - Nat.log2 den) ≤ (num : ℚ) / den
  · rw [if_pos (test.2 reached)]
    exact ⟨_, rfl, reached, high⟩
  · rw [if_neg fun reaches => reached (test.1 reaches)]
    refine ⟨_, rfl, low, ?_⟩
    rw [sub_add_cancel]
    exact lt_of_not_ge reached

/-- The place of a fraction is the one that the fraction fills, or the lowest place. -/
theorem placeOf_bounds (f : BinaryFormat) (num : Nat) {den : Nat} (positive : 0 < den) :
    f.lowestExponent ≤ f.placeOf num den
      ∧ (num : ℚ) / den < 2 ^ (f.fractionBits + 1) * 2 ^ f.placeOf num den
      ∧ (f.placeOf num den = f.lowestExponent
        ∨ 2 ^ f.fractionBits * 2 ^ f.placeOf num den ≤ (num : ℚ) / den) := by
  by_cases zero : num = 0
  · subst zero
    have place : f.placeOf 0 den = f.lowestExponent := by simp [placeOf]
    rw [place, Nat.cast_zero, zero_div]
    exact ⟨le_rfl, by positivity, .inl rfl⟩
  · obtain ⟨top, place, reached, below⟩ := f.placeOf_top (Nat.pos_of_ne_zero zero) positive
    have shift : ∀ (k : Nat) (e : Int), (2 : ℚ) ^ k * 2 ^ e = 2 ^ (e + k) := by
      intro k e
      rw [two_zpow_add_nat, mul_comm]
    rw [place, shift, shift]
    refine ⟨le_max_right .., ?_, ?_⟩
    · have exponent : top + 1 ≤ max (top - f.fractionBits) f.lowestExponent
          + (f.fractionBits + 1 : Nat) := by omega
      exact below.trans_le (zpow_le_zpow_right₀ one_le_two exponent)
    · by_cases lowest : top - f.fractionBits ≤ f.lowestExponent
      · exact .inl (max_eq_right lowest)
      · right
        have exponent : max (top - f.fractionBits) f.lowestExponent + f.fractionBits = top := by
          omega
        rw [exponent]
        exact reached

/-! ## The nearest pattern -/

/-- No pattern stands for a number nearer to `x`, and if another one is as near, this one is
even. -/
structure Nearest (f : BinaryFormat) (x : ℚ) (m : Nat) : Prop where
  le_infinity : m ≤ f.infinityPattern
  nearest : ∀ k ≤ f.infinityPattern, |x - f.magnitude m| ≤ |x - f.magnitude k|
  even : ∀ k ≤ f.infinityPattern, k ≠ m → |x - f.magnitude k| = |x - f.magnitude m| → m % 2 = 0

/-- Numerator and denominator of a fraction in units of its place. -/
theorem exists_scaled (f : BinaryFormat) (num : Nat) {den : Nat} (positive : 0 < den) :
    ∃ N D : Nat, 0 < D ∧ (num : ℚ) / den = N / D * 2 ^ f.placeOf num den
      ∧ f.magnitudePattern num den = min ((f.placeOf num den - f.lowestExponent).toNat
        * 2 ^ f.fractionBits + roundQuotient N D) f.infinityPattern := by
  have den_ne : (den : ℚ) ≠ 0 := by exact_mod_cast positive.ne'
  by_cases sign : 0 ≤ f.placeOf num den
  · refine ⟨num, den * 2 ^ (f.placeOf num den).toNat, by positivity, ?_, ?_⟩
    · have power : (2 : ℚ) ^ f.placeOf num den = 2 ^ (f.placeOf num den).toNat := by
        rw [← zpow_natCast, Int.toNat_of_nonneg sign]
      rw [power]
      push_cast
      field_simp
    · simp only [magnitudePattern, if_pos sign, Nat.pow_eq]
  · refine ⟨num * 2 ^ (-f.placeOf num den).toNat, den, positive, ?_, ?_⟩
    · have power : (2 : ℚ) ^ f.placeOf num den = (2 ^ (-f.placeOf num den).toNat)⁻¹ := by
        rw [← zpow_natCast, ← zpow_neg, Int.toNat_of_nonneg (by omega), neg_neg]
      rw [power]
      push_cast
      field_simp
    · simp only [magnitudePattern, if_neg sign, Nat.pow_eq]

/-- The pattern of a fraction before it is cut at infinity. -/
theorem exists_rounded (f : BinaryFormat) (num : Nat) {den : Nat} (positive : 0 < den) :
    ∃ j N D : Nat, 0 < D ∧ (num : ℚ) / den = N / D * 2 ^ (f.lowestExponent + j)
      ∧ N < 2 ^ (f.fractionBits + 1) * D ∧ (j = 0 ∨ 2 ^ f.fractionBits * D ≤ N)
      ∧ f.magnitudePattern num den
        = min (j * 2 ^ f.fractionBits + roundQuotient N D) f.infinityPattern := by
  obtain ⟨lowest, small, filled⟩ := f.placeOf_bounds num positive
  obtain ⟨N, D, D_pos, value, chosen⟩ := f.exists_scaled num positive
  have sum : f.lowestExponent + (f.placeOf num den - f.lowestExponent).toNat = f.placeOf num den := by
    omega
  have D_cast : (0 : ℚ) < D := by exact_mod_cast D_pos
  have unit := two_zpow_pos (f.placeOf num den)
  refine ⟨_, N, D, D_pos, by rw [sum, value], ?_, ?_, chosen⟩
  · rw [value, mul_lt_mul_iff_left₀ unit, div_lt_iff₀ D_cast] at small
    exact_mod_cast small
  · rcases filled with low | high
    · left
      omega
    · right
      rw [value, mul_le_mul_iff_left₀ unit, le_div_iff₀ D_cast] at high
      exact_mod_cast high

/-- Without the cut at infinity, the pattern of a fraction is nearest among all. -/
theorem rounded_nearest {f : BinaryFormat} (fine : 0 < f.fractionBits) {j N D : Nat} (positive : 0 < D)
    (small : N < 2 ^ (f.fractionBits + 1) * D) (filled : j = 0 ∨ 2 ^ f.fractionBits * D ≤ N) (k : Nat) :
    |(N : ℚ) / D * 2 ^ (f.lowestExponent + j)
        - f.magnitude (j * 2 ^ f.fractionBits + roundQuotient N D)|
      ≤ |(N : ℚ) / D * 2 ^ (f.lowestExponent + j) - f.magnitude k|
    ∧ (k ≠ j * 2 ^ f.fractionBits + roundQuotient N D →
      |(N : ℚ) / D * 2 ^ (f.lowestExponent + j) - f.magnitude k|
        = |(N : ℚ) / D * 2 ^ (f.lowestExponent + j)
          - f.magnitude (j * 2 ^ f.fractionBits + roundQuotient N D)| →
      (j * 2 ^ f.fractionBits + roundQuotient N D) % 2 = 0) := by
  have D_cast : (0 : ℚ) < D := by exact_mod_cast positive
  have unit := two_zpow_pos (f.lowestExponent + j)
  have own : f.magnitude (j * 2 ^ f.fractionBits + roundQuotient N D)
      = roundQuotient N D * 2 ^ (f.lowestExponent + j) :=
    magnitude_mul_add (roundQuotient_le positive small)
      (filled.imp_right (le_roundQuotient positive))
  have distance : ∀ z : Nat, |(N : ℚ) / D * 2 ^ (f.lowestExponent + j)
      - z * 2 ^ (f.lowestExponent + j)| = |(N : ℚ) / D - z| * 2 ^ (f.lowestExponent + j) := by
    intro z
    rw [← sub_mul, abs_mul, abs_of_pos unit]
  have parity : (j * 2 ^ f.fractionBits + roundQuotient N D) % 2 = roundQuotient N D % 2 := by
    obtain ⟨b, hb⟩ := Nat.exists_eq_succ_of_ne_zero fine.ne'
    rw [hb, Nat.pow_succ, ← Nat.mul_assoc]
    omega
  rw [own, distance, parity]
  rcases f.magnitude_on_grid k j with ⟨z, grid⟩ | ⟨above, below⟩
  · -- on the grid of the place, the whole factors are compared
    obtain ⟨near, tie⟩ := roundQuotient_nearest N positive z
    rw [grid, distance, mul_le_mul_iff_left₀ unit, mul_left_inj' unit.ne']
    refine ⟨near, fun other same => tie ?_ same⟩
    rintro rfl
    rw [← own] at grid
    exact other (f.magnitude_strictMono.injective grid)
  · -- below the numbers that fill the place, the first of these is nearer
    have reached : (2 ^ f.fractionBits : ℚ) ≤ (N : ℚ) / D := by
      rw [le_div_iff₀ D_cast]
      exact_mod_cast filled.resolve_left above
    have first : |(N : ℚ) / D - roundQuotient N D| ≤ (N : ℚ) / D - 2 ^ f.fractionBits := by
      have near := (roundQuotient_nearest N positive (2 ^ f.fractionBits)).1
      push_cast at near
      rwa [abs_of_nonneg (sub_nonneg.2 reached)] at near
    have farther : |(N : ℚ) / D - roundQuotient N D| * 2 ^ (f.lowestExponent + j)
        < |(N : ℚ) / D * 2 ^ (f.lowestExponent + j) - f.magnitude k| := by
      calc |(N : ℚ) / D - roundQuotient N D| * 2 ^ (f.lowestExponent + j)
          ≤ ((N : ℚ) / D - 2 ^ f.fractionBits) * 2 ^ (f.lowestExponent + j) :=
            mul_le_mul_of_nonneg_right first unit.le
        _ = (N : ℚ) / D * 2 ^ (f.lowestExponent + j)
            - 2 ^ f.fractionBits * 2 ^ (f.lowestExponent + j) := sub_mul ..
        _ < (N : ℚ) / D * 2 ^ (f.lowestExponent + j) - f.magnitude k := by linarith
        _ ≤ _ := le_abs_self _
    exact ⟨farther.le, fun _ same => absurd same farther.ne'⟩

/-- Infinity is nearest to what lies above it. -/
theorem nearest_infinity {f : BinaryFormat} {x : ℚ} (above : f.magnitude f.infinityPattern < x) :
    f.Nearest x f.infinityPattern := by
  have distance : ∀ k ≤ f.infinityPattern, |x - f.magnitude k| = x - f.magnitude k := by
    intro k le
    have under := f.magnitude_strictMono.monotone le
    exact abs_of_nonneg (by linarith)
  refine ⟨le_rfl, fun k le => ?_, fun k le other same => ?_⟩
  · rw [distance k le, distance _ le_rfl]
    have under := f.magnitude_strictMono.monotone le
    linarith
  · rw [distance k le, distance _ le_rfl] at same
    exact absurd (f.magnitude_strictMono.injective (by linarith)) other

/-- The pattern chosen for a fraction is the nearest one. -/
theorem magnitudePattern_nearest {f : BinaryFormat} (fine : 0 < f.fractionBits) (num : Nat) {den : Nat}
    (positive : 0 < den) : f.Nearest ((num : ℚ) / den) (f.magnitudePattern num den) := by
  obtain ⟨j, N, D, D_pos, value, small, filled, chosen⟩ := f.exists_rounded num positive
  have near := rounded_nearest fine D_pos small filled
  rw [← value] at near
  rw [chosen]
  generalize j * 2 ^ f.fractionBits + roundQuotient N D = m at near
  rcases Nat.lt_or_ge f.infinityPattern m with beyond | inside
  · rw [min_eq_right beyond.le]
    apply nearest_infinity
    -- nearer to a number beyond infinity than to infinity
    have step := f.magnitude_strictMono beyond
    have closer := (near f.infinityPattern).1
    by_contra under
    rw [abs_of_nonpos (by linarith), abs_of_nonpos (by linarith)] at closer
    linarith
  · rw [min_eq_left inside]
    exact ⟨inside, fun k _ => (near k).1, fun k _ => (near k).2⟩

/-- What is as far from two even patterns is nearer to a pattern between them. -/
theorem nearer_between (f : BinaryFormat) {x : ℚ} {a b : Nat} (lower : a < b) (even_a : a % 2 = 0)
    (even_b : b % 2 = 0) (equal : |x - f.magnitude a| = |x - f.magnitude b|) :
    |x - f.magnitude (a + 1)| < |x - f.magnitude a| := by
  have next : a + 1 < b := by omega
  have low := f.magnitude_lt_succ a
  have high := f.magnitude_strictMono next
  rcases abs_eq_abs.1 equal with plain | mirrored
  · linarith
  · rw [abs_of_nonneg (a := x - f.magnitude a) (by linarith), abs_lt]
    constructor <;> linarith

/-- There is only one nearest pattern. -/
theorem Nearest.unique {x : ℚ} {m n : Nat} (first : f.Nearest x m) (second : f.Nearest x n) :
    m = n := by
  by_contra other
  have same : |x - f.magnitude m| = |x - f.magnitude n| :=
    le_antisymm (first.nearest n second.le_infinity) (second.nearest m first.le_infinity)
  have even_first := first.even n second.le_infinity (Ne.symm other) same.symm
  have even_second := second.even m first.le_infinity other same
  rcases Nat.lt_or_gt_of_ne other with lower | lower
  · have nearer := f.nearer_between lower even_first even_second same
    exact absurd (first.nearest (m + 1) (lower.trans_le second.le_infinity)) (not_le.2 nearer)
  · have nearer := f.nearer_between lower even_second even_first same.symm
    exact absurd (second.nearest (n + 1) (lower.trans_le first.le_infinity)) (not_le.2 nearer)

/-- A magnitude of the format is nearest to itself. -/
theorem nearest_magnitude {m : Nat} (bounded : m ≤ f.infinityPattern) :
    f.Nearest (f.magnitude m) m := by
  refine ⟨bounded, fun k _ => ?_, fun k _ other same => ?_⟩
  · rw [sub_self, abs_zero]
    exact abs_nonneg _
  · rw [sub_self, abs_zero, abs_eq_zero, sub_eq_zero] at same
    exact absurd (f.magnitude_strictMono.injective same).symm other

end BinaryFormat

end TypedQuery
