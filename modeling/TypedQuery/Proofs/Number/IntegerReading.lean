import Mathlib.Algebra.Group.Nat.Defs
import TypedQuery.Number.Reader
import TypedQuery.Proofs.Number.Alphabet

/-! # Reading integers back

The text of an integer is read as that integer, up to the number of digits beyond which none is
read. -/

namespace TypedQuery
set_option autoImplicit false

/-! ## Digits -/

theorem digitChar_value : ∀ n < 10, (Char.ofNat (48 + n)).toNat - 48 = n := by decide

theorem exists_digitChar {c : Char} (h : c.isDigit = true) : ∃ k < 10, c = Char.ofNat (48 + k) := by
  simp only [Char.isDigit, Bool.and_eq_true, decide_eq_true_eq, ge_iff_le,
    UInt32.le_iff_toNat_le] at h
  change 48 ≤ c.toNat ∧ c.toNat ≤ 57 at h
  refine ⟨c.toNat - 48, by omega, ?_⟩
  rw [Nat.add_sub_cancel' h.1, Char.ofNat_toNat]

theorem digitsValue_concat (cs : List Char) (c : Char) :
    digitsValue (cs ++ [c]) = 10 * digitsValue cs + (c.toNat - 48) := by
  rw [digitsValue, List.foldl_append]
  rfl

theorem digitsValue_decimalDigits (n : Nat) : digitsValue (decimalDigits n) = n := by
  induction n using decimalDigits.induct with
  | case1 n small =>
    rw [decimalDigits, if_pos small]
    simpa [digitsValue] using digitChar_value n small
  | case2 n large ih =>
    have last := digitChar_value (n % 10) (Nat.mod_lt n (by omega))
    rw [decimalDigits, if_neg large, digitsValue_concat, ih, last]
    omega

theorem decimalDigits_ne_nil (n : Nat) : decimalDigits n ≠ [] := by
  unfold decimalDigits
  split <;> simp

theorem length_decimalDigits_le (k : Nat) {n : Nat} (h : n < 10 ^ (k + 1)) :
    (decimalDigits n).length ≤ k + 1 := by
  induction k generalizing n with
  | zero =>
    rw [decimalDigits, if_pos (by simpa using h)]
    simp
  | succ k ih =>
    unfold decimalDigits
    split
    · simp
    · have shorter : n / 10 < 10 ^ (k + 1) := by
        rw [Nat.div_lt_iff_lt_mul (by omega), ← Nat.pow_succ]
        exact h
      have bound := ih shorter
      rw [List.length_append, List.length_singleton]
      omega

/-! ## Preparation -/

theorem tokenMark_basic : ∀ c ∈ ['+', '-', '.', 'e', 'i', 'n', 'f'],
    toBasicChar c = c ∧ isBasicBlank c = false := by
  intro c hc
  simp only [List.mem_cons, List.not_mem_nil, or_false] at hc
  rcases hc with rfl | rfl | rfl | rfl | rfl | rfl | rfl <;> exact ⟨rfl, rfl⟩

theorem digitChar_basic : ∀ n < 10, toBasicChar (Char.ofNat (48 + n)) = Char.ofNat (48 + n)
    ∧ isBasicBlank (Char.ofNat (48 + n)) = false := by
  decide

theorem tokenChar_basic {c : Char} (h : isTokenChar c = true) :
    toBasicChar c = c ∧ isBasicBlank c = false := by
  have known : c.isDigit = true ∨ c ∈ ['+', '-', '.', 'e', 'i', 'n', 'f'] := by
    simpa [isTokenChar] using h
  rcases known with digit | mark
  · obtain ⟨n, small, rfl⟩ := exists_digitChar digit
    exact digitChar_basic n small
  · exact tokenMark_basic c mark

theorem dropWhile_of_forall {blank : Char → Bool} {cs : List Char} (h : ∀ c ∈ cs, blank c = false) :
    cs.dropWhile blank = cs := by
  cases cs with
  | nil => rfl
  | cons c rest =>
    have first := h c (List.mem_cons_self ..)
    rw [List.dropWhile_cons_of_neg (by simp [first])]

theorem numberChars_of_tokenChars {s : String} (h : ∀ c ∈ s.toList, isTokenChar c = true) :
    numberChars s = s.toList := by
  have basic : s.toList.map toBasicChar = s.toList := by
    rw [List.map_congr_left fun c hc => (tokenChar_basic (h c hc)).1, List.map_id']
  have shown : ∀ c ∈ s.toList, isBasicBlank c = false := fun c hc => (tokenChar_basic (h c hc)).2
  rw [numberChars, basic, dropWhile_of_forall shown,
    dropWhile_of_forall fun c hc => shown c (List.mem_reverse.1 hc), List.reverse_reverse]

theorem withoutUnderscores_plain {cs : List Char} (h : ∀ c ∈ cs, c ≠ '_') (afterDigit : Bool) :
    withoutUnderscores afterDigit cs = some cs := by
  induction cs generalizing afterDigit with
  | nil => rfl
  | cons c rest ih =>
    have plain := h c (List.mem_cons_self ..)
    rw [withoutUnderscores]
    · rw [ih fun d hd => h d (List.mem_cons_of_mem _ hd)]
      rfl
    · exact fun e => plain e

/-! ## Integers -/

theorem signed_natAbs (n : Int) : (if decide (n < 0) then -(n.natAbs : Int) else n.natAbs) = n := by
  by_cases negative : n < 0
  · rw [if_pos (decide_eq_true negative)]
    omega
  · rw [if_neg (by simpa using negative)]
    omega

theorem splitSign_digits {cs : List Char} (h : ∀ c ∈ cs, c.isDigit = true) :
    splitSign cs = (false, cs) := by
  unfold splitSign
  split
  · cases h '-' (List.mem_cons_self ..)
  · cases h '+' (List.mem_cons_self ..)
  · rfl

theorem splitSign_intText (n : Int) :
    splitSign (intText n).toList = (decide (n < 0), decimalDigits n.natAbs) := by
  unfold intText
  split
  · rename_i negative
    simp [splitSign, negative]
  · rename_i sign
    rw [String.toList_ofList, splitSign_digits (decimalDigits_isDigit _)]
    simp [sign]

/-- An integer that is not too long is read back from its text. -/
theorem readInt?_intText {n : Int} (short : (decimalDigits n.natAbs).length ≤ longestInteger) :
    readInt? (intText n) = some n := by
  have chars := numberChars_of_tokenChars (intText_tokenChars n)
  have digits := decimalDigits_isDigit n.natAbs
  have plain : ∀ c ∈ decimalDigits n.natAbs, c ≠ '_' := by
    rintro c inside rfl
    cases digits _ inside
  have readable : ((decimalDigits n.natAbs).isEmpty || !(decimalDigits n.natAbs).all Char.isDigit
      || decide (longestInteger < (decimalDigits n.natAbs).length)) = false := by
    simp only [Bool.or_eq_false_iff, List.isEmpty_eq_false_iff, Bool.not_eq_false',
      List.all_eq_true, decide_eq_false_iff_not, Nat.not_lt]
    exact ⟨⟨decimalDigits_ne_nil _, digits⟩, short⟩
  unfold readInt?
  rw [chars, splitSign_intText]
  dsimp only
  rw [withoutUnderscores_plain plain]
  simp only [Option.bind_eq_bind, Option.bind_some, readable, digitsValue_decimalDigits]
  rw [if_neg Bool.false_ne_true, signed_natAbs]

end TypedQuery
