import TypedQuery.Query.NumberText
import TypedQuery.Proofs.Value.Writable

/-! # The characters of numbers in queries

A number in a query is written with digits, signs, a point, an exponent mark and the letters of
infinity. None of these has a meaning of its own within the brackets of a clause. -/

namespace TypedQuery
set_option autoImplicit false

def isTokenChar (c : Char) : Bool := c.isDigit || ['+', '-', '.', 'e', 'i', 'n', 'f'].contains c

theorem digitChar_isDigit : ∀ n < 10, (Char.ofNat (48 + n)).isDigit = true := by decide

theorem decimalDigits_isDigit (n : Nat) : ∀ c ∈ decimalDigits n, c.isDigit = true := by
  induction n using decimalDigits.induct with
  | case1 n small =>
    rw [decimalDigits, if_pos small]
    simpa using digitChar_isDigit n small
  | case2 n large ih =>
    rw [decimalDigits, if_neg large]
    intro c hc
    rcases List.mem_append.1 hc with hc | hc
    · exact ih c hc
    · rw [List.mem_singleton.1 hc]
      exact digitChar_isDigit _ (Nat.mod_lt n (by omega))

theorem isTokenChar_of_isDigit {c : Char} (h : c.isDigit = true) : isTokenChar c = true := by
  simp [isTokenChar, h]

theorem intText_tokenChars (n : Int) : ∀ c ∈ (intText n).toList, isTokenChar c = true := by
  have digits := fun c hc => isTokenChar_of_isDigit (decimalDigits_isDigit n.natAbs c hc)
  intro c hc
  unfold intText at hc
  split at hc
  · simp only [String.toList_append, String.toList_ofList] at hc
    rcases List.mem_append.1 hc with hc | hc
    · have e : c = '-' := by simpa using hc
      rw [e]
      decide
    · exact digits c hc
  · rw [String.toList_ofList] at hc
    exact digits c hc

namespace NumberLayout

theorem scientific_eq_append (l : NumberLayout) (digits : List Char) (exponent : Int) :
    ∃ fraction, (∀ c ∈ fraction, c ∈ digits ∨ c = '.')
      ∧ l.scientific digits exponent = fraction ++ l.scientific [] exponent := by
  rcases digits with _ | ⟨first, _ | ⟨second, rest⟩⟩
  · exact ⟨[], by simp, rfl⟩
  · exact ⟨[first], fun c hc => .inl hc, rfl⟩
  · refine ⟨first :: '.' :: second :: rest, ?_, rfl⟩
    intro c hc
    simp only [List.mem_cons] at hc ⊢
    tauto

variable {digits : List Char} (h : ∀ c ∈ digits, isTokenChar c = true)
include h

theorem positional_tokenChars (whole : Int) :
    ∀ c ∈ positional digits whole, isTokenChar c = true := by
  have zero : isTokenChar '0' = true := by decide
  have point : isTokenChar '.' = true := by decide
  intro c hc
  unfold positional at hc
  split at hc
  · simp only [List.mem_cons, List.mem_append] at hc
    rcases hc with rfl | rfl | hc | hc
    · exact zero
    · exact point
    · rw [List.eq_of_mem_replicate hc]
      exact zero
    · exact h c hc
  · split at hc
    · simp only [List.mem_cons, List.mem_append, List.not_mem_nil, or_false] at hc
      rcases hc with (hc | hc) | rfl | rfl
      · exact h c hc
      · rw [List.eq_of_mem_replicate hc]
        exact zero
      · exact point
      · exact zero
    · simp only [List.mem_cons, List.mem_append] at hc
      rcases hc with hc | rfl | hc
      · exact h c (List.mem_of_mem_take hc)
      · exact point
      · exact h c (List.mem_of_mem_drop hc)

theorem scientific_tokenChars (l : NumberLayout) (exponent : Int) :
    ∀ c ∈ l.scientific digits exponent, isTokenChar c = true := by
  obtain ⟨fraction, known, e⟩ := l.scientific_eq_append digits exponent
  intro c hc
  rw [e] at hc
  simp only [scientific, List.nil_append, List.mem_append, List.mem_cons] at hc
  rcases hc with hc | rfl | rfl | hc | hc
  · rcases known c hc with inside | rfl
    · exact h c inside
    · decide
  · decide
  · split <;> decide
  · rw [List.eq_of_mem_replicate hc]
    decide
  · exact isTokenChar_of_isDigit (decimalDigits_isDigit _ c hc)

end NumberLayout

theorem magnitude_tokenChars (l : NumberLayout) (digits : Nat) (place : Int) :
    ∀ c ∈ l.magnitude digits place, isTokenChar c = true := by
  have figures := fun c hc => isTokenChar_of_isDigit (decimalDigits_isDigit digits c hc)
  unfold NumberLayout.magnitude
  dsimp only
  split
  · exact NumberLayout.positional_tokenChars figures _
  · exact NumberLayout.scientific_tokenChars figures l _

/-- A number in a query is written with these characters only. -/
theorem queryText_tokenChars {n : Numeral} {t : String} (h : n.queryText = .ok t) :
    ∀ c ∈ t.toList, isTokenChar c = true := by
  cases n with
  | int n =>
    rw [Numeral.queryText, Value.display_eq_ok, Value.display?_int, intText?_eq_some] at h
    rw [h.2]
    exact intText_tokenChars n
  | double x =>
    simp only [Numeral.queryText] at h
    split at h
    · cases h
    · cases h
      split <;> exact List.all_eq_true.1 (by decide)
    · rename_i negative significand exponent finite
      cases h
      have figures : ∀ c ∈ NumberLayout.standard.magnitude
          (if significand = 0 then (0, 0) else shortestDigits significand exponent).1
          (if significand = 0 then (0, 0) else shortestDigits significand exponent).2,
          isTokenChar c = true := magnitude_tokenChars _ _ _
      simp only [Double.text, finite, String.toList_ofList]
      split
      · intro c hc
        rcases List.mem_cons.1 hc with rfl | hc
        · decide
        · exact figures c hc
      · exact figures

theorem queryNumber_tokenChars {v : Value} {t : String} (h : v.queryNumber = .ok t) :
    ∀ c ∈ t.toList, isTokenChar c = true := by
  unfold Value.queryNumber at h
  split at h
  · cases h
  · exact queryText_tokenChars h

end TypedQuery
