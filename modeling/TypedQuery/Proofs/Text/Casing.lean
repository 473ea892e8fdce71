import TypedQuery.Text.Blank
import TypedQuery.Text.Casing

/-! # Lower case of basic letters

A text of the basic alphabet is lower-cased letter by letter, and the blanks at its ends stay where
they are. -/

namespace TypedQuery
set_option autoImplicit false

/-- The text has characters of the basic alphabet only. -/
def IsAscii (s : String) : Prop := ∀ c ∈ s.toList, c.toNat < 128

instance : DecidablePred IsAscii := fun s =>
  decidable_of_iff ((s.toList.all fun c => c.toNat < 128) = true) (by
    simp only [List.all_eq_true, decide_eq_true_eq, IsAscii])

/-- The basic letters in lower case, and all else as it is. -/
def asciiLower (s : String) : String := String.ofList (s.toList.map Char.toLower)

theorem lowerFrom_each {f : Char → Char} {cs : List Char}
    (each : ∀ c ∈ cs, c.toNat ≠ 0x3a3 ∧ lowerChars c = [f c]) (before : List Char) :
    lowerFrom before cs = cs.map f := by
  induction cs generalizing before with
  | nil => rfl
  | cons c rest ih =>
    obtain ⟨sigma, lower⟩ := each c (List.mem_cons_self ..)
    rw [lowerFrom, if_neg sigma, lower, ih fun d hd => each d (List.mem_cons_of_mem _ hd)]
    rfl

theorem lowerChars_ascii : ∀ n < 128, lowerChars (Char.ofNat n) = [(Char.ofNat n).toLower] := by
  decide +kernel

variable {s t : String}

theorem lowerCase_ascii (ascii : IsAscii s) : lowerCase s = asciiLower s := by
  rw [lowerCase, asciiLower, lowerFrom_each fun c hc => ?_]
  have small := ascii c hc
  have lower := lowerChars_ascii c.toNat small
  rw [Char.ofNat_toNat] at lower
  exact ⟨by omega, lower⟩

theorem toLower_of_large {c : Char} (large : 128 ≤ c.toNat) : c.toLower = c := by
  have above : ¬ (c.val ≥ 'A'.val ∧ c.val ≤ 'Z'.val) := by
    rintro ⟨_, below⟩
    have below : c.toNat ≤ 90 := UInt32.le_iff_toNat_le.1 below
    omega
  exact dif_neg above

/-- What holds of the basic characters with their lower case, and of others, holds of all. -/
theorem toLower_cases {P : Char → Char → Prop}
    (small : ∀ n < 128, P (Char.ofNat n) (Char.ofNat n).toLower)
    (large : ∀ c, 128 ≤ c.toNat → P c c) (c : Char) : P c c.toLower := by
  by_cases basic : c.toNat < 128
  · have known := small c.toNat basic
    rwa [Char.ofNat_toNat] at known
  · rw [toLower_of_large (Nat.not_lt.1 basic)]
    exact large c (Nat.not_lt.1 basic)

theorem isAscii_asciiLower : IsAscii (asciiLower s) ↔ IsAscii s := by
  have each : ∀ c : Char, c.toLower.toNat < 128 ↔ c.toNat < 128 :=
    toLower_cases (P := fun c lower => lower.toNat < 128 ↔ c.toNat < 128) (by decide)
      fun _ _ => Iff.rfl
  simp [IsAscii, asciiLower, each]

/-! ## Blanks -/

theorem isBlank_toLower : ∀ c : Char, isBlank c.toLower = isBlank c :=
  toLower_cases (P := fun c lower => isBlank lower = isBlank c) (by decide) fun _ _ => rfl

theorem trimBlanks_map {f : Char → Char} (blanks : ∀ c, isBlank (f c) = isBlank c) (cs : List Char) :
    trimBlanks (cs.map f) = (trimBlanks cs).map f := by
  have same : isBlank ∘ f = isBlank := funext blanks
  rw [trimBlanks, trimBlanks, List.dropWhile_map, same, ← List.map_reverse, List.dropWhile_map, same,
    ← List.map_reverse]

theorem trimmed_asciiLower (s : String) : trimmed (asciiLower s) = asciiLower (trimmed s) := by
  rw [trimmed, trimmed, asciiLower, asciiLower, String.toList_ofList, String.toList_ofList,
    trimBlanks_map isBlank_toLower]

theorem trimBlanks_sublist (cs : List Char) : (trimBlanks cs).Sublist cs := by
  have back := (List.dropWhile_sublist isBlank (l := (cs.dropWhile isBlank).reverse)).reverse
  rw [List.reverse_reverse] at back
  exact back.trans (List.dropWhile_sublist _)

theorem isAscii_trimmed (ascii : IsAscii s) : IsAscii (trimmed s) := by
  intro c hc
  rw [trimmed, String.toList_ofList] at hc
  exact ascii c ((trimBlanks_sublist _).subset hc)

/-- Blanks at an end are told from the lower case as well. -/
theorem asciiLower_trimmed_eq (same : asciiLower (trimmed s) = asciiLower s) : trimmed s = s := by
  have letters : (trimBlanks s.toList).map Char.toLower = s.toList.map Char.toLower := by
    have texts := congrArg String.toList same
    rwa [asciiLower, asciiLower, String.toList_ofList, String.toList_ofList, trimmed,
      String.toList_ofList] at texts
  have length := congrArg List.length letters
  rw [List.length_map, List.length_map] at length
  rw [trimmed, (trimBlanks_sublist _).eq_of_length length, String.ofList_toList]

/-- Two texts that differ in the case of basic letters alone, one of them of the basic alphabet, are
lower-cased to the same text, without the blanks at their ends. -/
theorem lowerCase_trimmed (ascii : IsAscii s) (same : asciiLower t = asciiLower s) :
    lowerCase (trimmed t) = asciiLower (trimmed s) := by
  have other : IsAscii t := isAscii_asciiLower.1 (same ▸ isAscii_asciiLower.2 ascii)
  rw [lowerCase_ascii (isAscii_trimmed other), ← trimmed_asciiLower, same, trimmed_asciiLower]

end TypedQuery
