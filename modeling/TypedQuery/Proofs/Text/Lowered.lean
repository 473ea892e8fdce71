import Mathlib.Data.Nat.ModEq
import TypedQuery.Proofs.Text.Casing

/-! # Lower case is kept

No letter that a run of the tables leads to is one that a run starts from, so that a text in lower case
is its own lower case. That is decided run by run: the images of a run either lie beyond the other run
or fall between its members. -/

namespace TypedQuery
set_option autoImplicit false

/-! ## Runs -/

/-- The runs of all code points that lower case changes; the dotted capital is a run of its own. -/
def changedRuns : List CaseRun := ⟨0x130, 0x130, 1, 0⟩ :: lowerRuns

namespace CaseRun

def covers (r : CaseRun) (n : Nat) : Bool := r.first ≤ n && n ≤ r.last && (n - r.first) % r.step == 0

/-- May a code point from `low` to `high`, in steps of `step`, be in the run? -/
def meets (r : CaseRun) (low high step : Nat) : Bool :=
  Nat.ble low r.last && (Nat.ble r.first high
    && (low % r.step == r.first % r.step || !(low == high || step % r.step == 0)))

/-- The run leads to code points that no run changes. -/
def settles (r : CaseRun) : Bool :=
  0 ≤ r.first + r.shift
    && !changedRuns.any fun q => q.meets (r.first + r.shift).toNat (r.last + r.shift).toNat r.step

variable {r : CaseRun}

theorem meets_of_covers {m low high step : Nat} (covered : r.covers m = true) (least : low ≤ m)
    (most : m ≤ high) (steps : step ∣ m - low) : r.meets low high step = true := by
  simp only [covers, Bool.and_eq_true, decide_eq_true_eq, beq_iff_eq] at covered
  obtain ⟨⟨first, last⟩, inStep⟩ := covered
  have member : m % r.step = r.first % r.step :=
    ((Nat.modEq_iff_dvd' first).2 (Nat.dvd_of_mod_eq_zero inStep)).symm
  have between : low = high ∨ step % r.step = 0 → low % r.step = r.first % r.step := by
    rintro (single | divides)
    · rw [← member, Nat.le_antisymm least (single ▸ most)]
    · have apart := (Nat.dvd_of_mod_eq_zero divides).trans steps
      exact ((Nat.modEq_iff_dvd' least).2 apart).trans member
  simp only [meets, Bool.and_eq_true, Nat.ble_eq, Bool.or_eq_true, Bool.not_eq_true',
    Bool.or_eq_false_iff, beq_iff_eq, beq_eq_false_iff_ne]
  refine ⟨least.trans last, first.trans most, ?_⟩
  by_cases regular : low = high ∨ step % r.step = 0
  · exact .inl (between regular)
  · exact .inr (not_or.1 regular)

theorem not_covers_of_settles (settles : r.settles = true) {n : Nat} (covered : r.covers n = true) :
    ∀ q ∈ changedRuns, q.covers ((n : Int) + r.shift).toNat = false := by
  simp only [CaseRun.settles, covers, Bool.and_eq_true, decide_eq_true_eq, beq_iff_eq] at settles covered
  obtain ⟨positive, apart⟩ := settles
  obtain ⟨⟨first, last⟩, inStep⟩ := covered
  intro q hq
  rw [Bool.not_eq_true', List.any_eq_false] at apart
  rw [Bool.eq_false_iff]
  intro covered
  have least : (r.first + r.shift).toNat ≤ (n + r.shift).toNat := by omega
  have most : (n + r.shift).toNat ≤ (r.last + r.shift).toNat := by omega
  have moved : (n + r.shift).toNat - (r.first + r.shift).toNat = n - r.first := by omega
  exact apart q hq (meets_of_covers covered least most (moved ▸ Nat.dvd_of_mod_eq_zero inStep))

theorem apply_cases (runs : List CaseRun) (n : Nat) :
    (∃ r ∈ runs, r.covers n = true ∧ apply runs n = ((n : Int) + r.shift).toNat)
      ∨ (∀ r ∈ runs, r.covers n = false) ∧ apply runs n = n := by
  unfold apply
  split
  · rename_i r found
    have covered : r.covers n = true := List.find?_some (p := (CaseRun.covers · n)) found
    exact .inl ⟨r, List.mem_of_find?_eq_some found, covered, rfl⟩
  · rename_i none
    exact .inr ⟨fun r hr => Bool.eq_false_iff.2 (List.find?_eq_none.1 none r hr), rfl⟩

end CaseRun

theorem settles_lowerRuns : ∀ r ∈ lowerRuns, r.settles = true := by
  have all : lowerRuns.all CaseRun.settles = true := by decide +kernel
  exact List.all_eq_true.1 all

/-- The letters that lower case leads to by no run, and what stands for a code point that is none. -/
theorem not_covers_letters :
    ∀ n ∈ [0, 0x69, 0x307, 0x3c2, 0x3c3], ∀ r ∈ changedRuns, r.covers n = false := by
  have all : ([0, 0x69, 0x307, 0x3c2, 0x3c3].all fun n => changedRuns.all fun r => !r.covers n)
      = true := by decide +kernel
  intro n hn r hr
  simpa using List.all_eq_true.1 (List.all_eq_true.1 all n hn) r hr

/-! ## Characters -/

/-- Lower case leaves the character as it is, wherever it stands. -/
def IsLowered (c : Char) : Prop := c.toNat ≠ 0x3a3 ∧ lowerChars c = [c]

theorem isLowered_of_uncovered {c : Char} (free : ∀ r ∈ changedRuns, r.covers c.toNat = false) :
    IsLowered c := by
  constructor
  · intro same
    have sigma : (changedRuns.any fun r => r.covers 0x3a3) = true := by decide +kernel
    obtain ⟨r, hr, covered⟩ := List.any_eq_true.1 sigma
    rw [← same, free r hr] at covered
    cases covered
  · have dotted : c.toNat ≠ 0x130 := by
      intro same
      have uncovered := free _ (List.mem_cons_self ..)
      rw [same] at uncovered
      cases uncovered
    rw [lowerChars, if_neg dotted]
    rcases CaseRun.apply_cases lowerRuns c.toNat with ⟨r, hr, covered, _⟩ | ⟨_, kept⟩
    · rw [free r (List.mem_cons_of_mem _ hr)] at covered
      cases covered
    · rw [kept, Char.ofNat_toNat]

theorem isLowered_ofNat {n : Nat} (free : ∀ r ∈ changedRuns, r.covers n = false) :
    IsLowered (Char.ofNat n) := by
  by_cases valid : n.isValidChar
  · have same : (Char.ofNat n).toNat = n := by
      rw [Char.ofNat, dif_pos valid]
      rfl
    exact isLowered_of_uncovered (same.symm ▸ free)
  · rw [Char.ofNat, dif_neg valid]
    exact isLowered_of_uncovered (not_covers_letters 0 (by decide))

theorem isLowered_lowerChars {c d : Char} (hd : d ∈ lowerChars c) : IsLowered d := by
  unfold lowerChars at hd
  split at hd
  · simp only [List.mem_cons, List.not_mem_nil, or_false] at hd
    rcases hd with rfl | rfl
    · exact isLowered_ofNat (not_covers_letters _ (by decide))
    · exact isLowered_ofNat (not_covers_letters _ (by decide))
  · rename_i dotless
    rw [List.mem_singleton.1 hd]
    rcases CaseRun.apply_cases lowerRuns c.toNat with ⟨r, hr, covered, image⟩ | ⟨free, kept⟩
    · rw [image]
      exact isLowered_ofNat (CaseRun.not_covers_of_settles (settles_lowerRuns r hr) covered)
    · rw [kept]
      refine isLowered_ofNat (List.forall_mem_cons.2 ⟨?_, free⟩)
      simp only [CaseRun.covers, Bool.and_eq_false_iff, decide_eq_false_iff_not]
      omega

theorem isLowered_lowerFrom {d : Char} {before cs : List Char} (hd : d ∈ lowerFrom before cs) :
    IsLowered d := by
  induction cs generalizing before with
  | nil => cases hd
  | cons c rest ih =>
    rw [lowerFrom, List.mem_append] at hd
    rcases hd with here | later
    · split at here
      · rw [List.mem_singleton.1 here]
        -- a sigma becomes one of the two small ones
        split
        · exact isLowered_ofNat (not_covers_letters _ (by decide))
        · exact isLowered_ofNat (not_covers_letters _ (by decide))
      · exact isLowered_lowerChars here
    · exact ih later

/-- A text in lower case is its own lower case. -/
theorem lowerCase_lowerCase (s : String) : lowerCase (lowerCase s) = lowerCase s := by
  have each : ∀ d ∈ lowerFrom [] s.toList, d.toNat ≠ 0x3a3 ∧ lowerChars d = [id d] :=
    fun d hd => isLowered_lowerFrom hd
  rw [lowerCase, lowerCase, String.toList_ofList, lowerFrom_each each, List.map_id]

end TypedQuery
