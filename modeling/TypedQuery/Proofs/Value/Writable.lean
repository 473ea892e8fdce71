import Mathlib.Algebra.Group.Nat.Defs
import TypedQuery.Condition.Instant
import TypedQuery.Proofs.Outcome

/-! # Values that can be written

All values can be written but those with an integer of too many digits inside. Such an integer comes
from a caller: no double, and so no point in time, is that far from zero. -/

namespace TypedQuery
set_option autoImplicit false

theorem intText?_eq_some {n : Int} {t : String} :
    intText? n = some t ↔ isShort n = true ∧ t = intText n := by
  rw [intText?, Option.ite_none_right_eq_some, Option.some.injEq, eq_comm (a := t)]

/-- An integer of at most forty-three digits can be written. -/
theorem isShort_of_lt {n : Int} (h : n.natAbs < 10 ^ 43) : isShort n = true :=
  decide_eq_true (Nat.lt_of_lt_of_le h (Nat.le_self_pow (by decide) _))

theorem isShort_of_le {m n : Nat} (le : m ≤ n) (short : isShort n = true) : isShort m = true :=
  decide_eq_true (Nat.lt_of_le_of_lt le (of_decide_eq_true short))

/-- The bound itself has a digit too many. -/
theorem isShort_integerBound : isShort integerBound = false := decide_eq_false (Nat.lt_irrefl _)

/-! ## Doubles -/

theorem Double.datum_bounds {x : Double} {negative : Bool} {significand : Nat} {exponent : Int}
    (h : x.datum = .finite negative significand exponent) :
    significand < 2 ^ 53 ∧ exponent ≤ 971 := by
  have sign : BinaryFormat.double.signPattern = 2 ^ 63 := by decide
  have infinity : BinaryFormat.double.infinityPattern = 2047 * 2 ^ 52 := by decide
  have lowest : BinaryFormat.double.lowestExponent = -1074 := by decide
  have unit : Nat.pow 2 BinaryFormat.double.fractionBits = 2 ^ 52 := by decide
  simp only [datum, BinaryFormat.decode, sign, infinity, lowest, unit] at h
  split at h
  · cases h
  · split at h
    · cases h
    · split at h
      · cases h
        omega
      · cases h
        omega

/-- The integer part of a double is far below the bound. -/
theorem Double.isShort_truncate (x : Double) : isShort x.truncate = true := by
  have far : 2 ^ 53 * (2 ^ 8) ^ 128 < integerBound := by decide +kernel
  have power {e a b : Nat} (h : e ≤ a * b) : 2 ^ e ≤ (2 ^ a) ^ b := by
    rw [← Nat.pow_mul]
    exact Nat.pow_le_pow_right (by decide) h
  have natAbs : x.truncate.natAbs < integerBound := by
    unfold truncate
    split
    · rename_i negative significand exponent finite
      obtain ⟨small, low⟩ := datum_bounds finite
      have place : 2 ^ exponent.toNat ≤ (2 ^ 8) ^ 128 := power (by omega)
      have whole : significand * 2 ^ exponent.toNat < integerBound :=
        Nat.lt_of_le_of_lt (Nat.mul_le_mul (Nat.le_of_lt small) place) far
      have quotient : (Datum.fraction significand exponent).1 / (Datum.fraction significand exponent).2
          < integerBound := by
        refine Nat.lt_of_le_of_lt (Nat.div_le_self _ _) (Nat.lt_of_le_of_lt ?_ whole)
        unfold Datum.fraction
        split
        · exact Nat.le_refl _
        · exact Nat.le_mul_of_pos_right _ (Nat.two_pow_pos _)
      dsimp only
      split
      · rw [Int.natAbs_neg, Int.natAbs_natCast]
        exact quotient
      · rw [Int.natAbs_natCast]
        exact quotient
    · exact Nat.zero_lt_of_lt far
  exact decide_eq_true natAbs

/-! ## Values -/

namespace Value

/-- Can the value be written? -/
def isWritable (v : Value) : Bool := v.display?.isSome

variable {v : Value} {s : String}

theorem display_eq_ok : v.display = .ok s ↔ v.display? = some s := by
  unfold display
  split
  · rename_i found
    simp [found]
  · rename_i none
    simp [none]

/-- What can be shown with its type can be shown without it, and the other way round. -/
theorem isSome_literal? (v : Value) : v.literal?.isSome = v.isWritable := by
  cases v with
  | text s => rw [isWritable, literal?, display?, Option.isSome_some, Option.isSome_some]
  | date d => rw [isWritable, literal?, display?, Option.isSome_some, Option.isSome_some]
  | dateTime t => rw [isWritable, literal?, display?, Option.isSome_some, Option.isSome_some]
  | _ => rw [isWritable, display?] <;> nofun

/-- A value is shown if it can be written. -/
theorem display_decides (v : Value) :
    Decides (fun e => e = .misuse .badValue ∧ v.isWritable = false)
      (fun s => v.isWritable = true ∧ v.display? = some s) v.display := by
  unfold display isWritable
  cases v.display? with
  | some s => exact .ok ⟨rfl, rfl⟩
  | none => exact .refused ⟨rfl, rfl⟩

theorem isSome_literals? {items : List Value} :
    (literals? items).isSome = true ↔ ∀ w ∈ items, w.isWritable = true := by
  induction items with
  | nil => simp [literals?]
  | cons w rest ih =>
    rw [List.forall_mem_cons, ← ih, ← isSome_literal?, literals?]
    cases w.literal? with
    | none => simp
    | some first => cases literals? rest <;> simp

/-- A sequence can be written just when its members can. -/
theorem isWritable_of_items {items : List Value} (sequence : v.items? = some items) :
    v.isWritable = true ↔ ∀ w ∈ items, w.isWritable = true := by
  have bracketed (opening closing : String) :
      (do return opening ++ joinTexts ", " (← literals? items) ++ closing : Option String).isSome
        = (literals? items).isSome := by
    cases literals? items <;> rfl
  rw [← isSome_literals?, ← isSome_literal?]
  cases v with
  | list items' =>
    cases sequence
    rw [literal?, bracketed]
  | tuple items' =>
    cases sequence
    unfold literal?
    split
    · rename_i w
      rw [literals?]
      cases w.literal? <;> simp [literals?]
    · rw [bracketed]
  | _ => cases sequence

theorem display?_int (n : Int) : (int n).display? = intText? n := by
  rw [display?, literal?] <;> nofun

theorem display_int {n : Int} (short : isShort n = true) : (int n).display = .ok (intText n) := by
  rw [display_eq_ok, display?_int, intText?_eq_some]
  exact ⟨short, rfl⟩

@[simp] theorem isWritable_int (n : Int) : (int n).isWritable = isShort n := by
  rw [isWritable, display?_int, intText?]
  cases isShort n <;> rfl

@[simp] theorem isWritable_double (x : Double) : (double x).isWritable = true := rfl

@[simp] theorem isWritable_null : null.isWritable = true := rfl

@[simp] theorem isWritable_text (s : String) : (text s).isWritable = true := rfl

/-- What counts as false is nothing, zero or empty, and can be written. -/
theorem isWritable_of_not_truthy (h : v.truthy = false) : v.isWritable = true := by
  cases v with
  | int n =>
    have zero : n = 0 := by simpa [truthy] using h
    rw [zero, isWritable_int]
    exact isShort_of_lt (by decide)
  | list items =>
    cases items with
    | nil => rfl
    | cons => cases h
  | tuple items =>
    cases items with
    | nil => rfl
    | cons => cases h
  | map entries =>
    cases entries with
    | nil => rfl
    | cons => cases h
  | _ => rfl

end Value

/-- Seconds that were counted on the calendar can be written. -/
theorem isWritable_secondsOf (micros : Int) : (Value.ofNumeral (secondsOf micros)).isWritable = true := by
  unfold secondsOf
  dsimp only
  split
  · exact (Value.isWritable_int _).trans (Double.isShort_truncate _)
  · exact Value.isWritable_double _

end TypedQuery
