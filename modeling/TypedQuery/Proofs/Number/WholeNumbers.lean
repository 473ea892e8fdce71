import Mathlib.Data.List.TakeWhile
import TypedQuery.Condition.Instant
import TypedQuery.Proofs.Number.IntegerReading
import TypedQuery.Proofs.Number.Widening
import TypedQuery.Reply.Coercion

/-! # Whole numbers as doubles

A whole number of up to fifty-three bits is a double. It is read exactly from its text, whole seconds
are written as integers, and reading them finds no microseconds. -/

namespace TypedQuery
set_option autoImplicit false

open BinaryFormat (double)

/-! ## Values -/

theorem Datum.fraction_of_whole {s n : Nat} {e : Int} (value : (s : ℚ) * 2 ^ e = n) :
    (fraction s e).1 = n * (fraction s e).2 := by
  have positive : (0 : ℚ) < (fraction s e).2 := by exact_mod_cast fraction_pos s e
  rw [← fraction_value, div_eq_iff positive.ne'] at value
  exact_mod_cast value

namespace Double

/-- What a double that holds a whole number with a sign answers. -/
structure Holds (x : Double) (negative : Bool) (n : Nat) : Prop where
  finite : x.isFinite = true
  whole : x.isWhole = true
  truncate : x.truncate = if negative then -(n : Int) else n
  rounded : x.roundToInt = if negative then -(n : Int) else n
  part : ∃ den, 0 < den ∧ x.fractionalPart = (negative, 0, den)

theorem holds_of_datum {x : Double} {negative : Bool} {s n : Nat} {e : Int}
    (datum : x.datum = .finite negative s e) (value : (s : ℚ) * 2 ^ e = n) : x.Holds negative n := by
  have positive := Datum.fraction_pos s e
  have multiple := Datum.fraction_of_whole value
  have rest : (Datum.fraction s e).1 % (Datum.fraction s e).2 = 0 := by
    rw [multiple, Nat.mul_mod_left]
  have quotient : (Datum.fraction s e).1 / (Datum.fraction s e).2 = n := by
    rw [multiple, Nat.mul_div_cancel n positive]
  have nearest : roundQuotient (Datum.fraction s e).1 (Datum.fraction s e).2 = n := by
    rw [multiple, roundQuotient_mul n positive]
  refine ⟨?_, ?_, ?_, ?_, (Datum.fraction s e).2, positive, ?_⟩
  · rw [isFinite, datum]
    rfl
  · simp only [isWhole, datum, rest, decide_true]
  · simp only [Double.truncate, datum, quotient]
  · simp only [roundToInt, datum, nearest]
  · simp only [fractionalPart, datum, rest]

/-- A fraction that is a whole number of up to fifty-three bits is held exactly. -/
theorem holds_ofFraction (negative : Bool) {num den n : Nat} (positive : 0 < den)
    (multiple : num = n * den) (short : n < 2 ^ 53) :
    (ofFraction negative num den).Holds negative n := by
  have unit : ((-1074 : Int) + (1074 : Nat)) = 0 := by norm_num
  have bounded : (n : ℚ) * 2 ^ ((-1074 : Int) + (1074 : Nat)) < 2 ^ 1024 := by
    have small : (n : ℚ) < 2 ^ 53 := by exact_mod_cast short
    rw [unit, zpow_zero, mul_one]
    exact small.trans (pow_lt_pow_right₀ one_lt_two (by norm_num))
  obtain ⟨m, below, value⟩ := BinaryFormat.exists_double short bounded
  rw [unit, zpow_zero, mul_one] at value
  have den_ne : (den : ℚ) ≠ 0 := by exact_mod_cast positive.ne'
  have quotient : (num : ℚ) / den = n := by
    rw [multiple, Nat.cast_mul, mul_div_cancel_right₀ _ den_ne]
  exact holds_of_datum (datum_ofFraction_exact negative positive below (value.trans quotient.symm)) value

end Double

/-! ## Seconds and microseconds -/

theorem secondsOf_whole {n : Int} (short : n.natAbs < 2 ^ 53) :
    secondsOf (n * microsPerSecond) = .int n := by
  have positive : 0 < microsPerSecond := by decide
  have multiple : (n * (microsPerSecond : Int)).natAbs = n.natAbs * microsPerSecond := by
    rw [Int.natAbs_mul, Int.natAbs_natCast]
  have held := Double.holds_ofFraction (decide (n * microsPerSecond < 0)) positive multiple short
  have sign : n * (microsPerSecond : Int) < 0 ↔ n < 0 := by
    unfold microsPerSecond
    omega
  unfold secondsOf
  dsimp only
  rw [Double.ofQuotient, held.whole, if_pos rfl, held.truncate, decide_eq_decide.2 sign, signed_natAbs]

theorem microsOf_whole {x : Double} {negative : Bool} {n : Nat} (held : x.Holds negative n) :
    microsOf x = (if negative then -(n : Int) else n) * microsPerSecond := by
  obtain ⟨den, positive, part⟩ := held.part
  have multiple : 0 * microsPerSecond = 0 * den := by
    rw [Nat.zero_mul, Nat.zero_mul]
  have none := Double.holds_ofFraction negative positive multiple (by decide)
  have zero : (Double.ofFraction negative (0 * microsPerSecond) den).roundToInt = 0 := by
    rw [none.rounded]
    simp
  unfold microsOf
  rw [part]
  dsimp only
  rw [zero, held.truncate, Int.add_zero]

/-! ## Reading a whole number -/

theorem digitsValue_dropZeros (cs : List Char) :
    digitsValue (cs.dropWhile (· = '0')) = digitsValue cs := by
  induction cs with
  | nil => rfl
  | cons c rest ih =>
    by_cases zero : c = '0'
    · rw [List.dropWhile_cons_of_pos (by simp [zero]), ih, zero]
      rfl
    · rw [List.dropWhile_cons_of_neg (by simp [zero])]

theorem nearestDecimal_whole (negative : Bool) {digits : List Char} (short : digits.length ≤ 400) :
    nearestDecimal negative digits 0 = Double.ofFraction negative (digitsValue digits) 1 := by
  have significant := digitsValue_dropZeros digits
  have length : (digits.dropWhile (· = '0')).length ≤ 400 :=
    ((List.dropWhile_suffix _).length_le).trans short
  unfold nearestDecimal
  dsimp only
  split
  · rename_i empty
    rw [List.isEmpty_iff.1 empty] at significant
    rw [← significant]
    rfl
  · rw [if_neg (by omega), if_neg (by omega), significant]
    simp

theorem digit_toLower : ∀ k < 10,
    (Char.ofNat (48 + k)).toLower ≠ 'i' ∧ (Char.ofNat (48 + k)).toLower ≠ 'n' := by
  decide

theorem word_has_no_digit {digits : List Char} (h : ∀ c ∈ digits, c.isDigit = true) {word : String}
    (first : Char) (listed : first ∈ word.toList) (mark : first = 'i' ∨ first = 'n') :
    String.ofList (digits.map Char.toLower) ≠ word := by
  rintro rfl
  rw [String.toList_ofList, List.mem_map] at listed
  obtain ⟨c, inside, lowered⟩ := listed
  obtain ⟨k, small, rfl⟩ := exists_digitChar (h c inside)
  have other := digit_toLower k small
  rw [lowered] at other
  rcases mark with rfl | rfl
  · exact other.1 rfl
  · exact other.2 rfl

theorem readDecimal?_digits (negative : Bool) {digits : List Char} (h : ∀ c ∈ digits, c.isDigit = true)
    (some_digit : digits ≠ []) (short : digits.length ≤ 400) :
    readDecimal? negative digits = some (Double.ofFraction negative (digitsValue digits) 1) := by
  have taken : digits.takeWhile Char.isDigit = digits := List.takeWhile_eq_self_iff.2 h
  have dropped : digits.dropWhile Char.isDigit = [] := List.dropWhile_eq_nil_iff.2 h
  unfold readDecimal?
  simp only [taken, dropped, readExponent?]
  simp [some_digit, nearestDecimal_whole negative short]

/-- The text of a whole number is read as the double that holds it. -/
theorem readDouble?_intText {n : Int} (short : (decimalDigits n.natAbs).length ≤ 400) :
    readDouble? (intText n) = some (Double.ofFraction (decide (n < 0)) n.natAbs 1) := by
  have known := intText_tokenChars n
  have digits := decimalDigits_isDigit n.natAbs
  have plain : ∀ c ∈ (intText n).toList, c ≠ '_' := by
    rintro c inside rfl
    exact absurd (known _ inside) (by decide)
  unfold readDouble?
  rw [numberChars_of_tokenChars known, withoutUnderscores_plain plain]
  simp only [Option.bind_eq_bind, Option.bind_some, splitSign_intText]
  split
  · rename_i word
    exact absurd word (word_has_no_digit digits 'i' (by decide) (.inl rfl))
  · rename_i word
    exact absurd word (word_has_no_digit digits 'i' (by decide) (.inl rfl))
  · rename_i word
    exact absurd word (word_has_no_digit digits 'n' (by decide) (.inr rfl))
  · rw [readDecimal?_digits _ digits (decimalDigits_ne_nil _) short, digitsValue_decimalDigits]

end TypedQuery
