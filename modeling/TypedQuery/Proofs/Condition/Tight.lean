import TypedQuery.Proofs.Query.EmissionOutcome

/-! # Tight trees

No part of a tight tree asks nothing or asks for neighbours, and its groups join at least two. The
operators keep trees tight: a group that is continued grows, and one that is begun has two. -/

namespace TypedQuery
set_option autoImplicit false

namespace Condition

variable {c left right part : Condition} {cs : List Condition}

/-! ## Parts of trees -/

/-- One tree stands somewhere in another. -/
inductive PartOf (part : Condition) : Condition → Prop
  | self : PartOf part part
  | all {c : Condition} {cs : List Condition} : c ∈ cs → PartOf part c → PartOf part (.all cs)
  | any {c : Condition} {cs : List Condition} : c ∈ cs → PartOf part c → PartOf part (.any cs)
  | negation {c : Condition} : PartOf part c → PartOf part (.negation c)

theorem PartOf.trans {inner : Condition} (first : inner.PartOf part) (second : part.PartOf c) :
    inner.PartOf c := by
  induction second with
  | self => exact first
  | all member _ ih => exact .all member ih
  | any member _ ih => exact .any member ih
  | negation _ ih => exact .negation ih

theorem partOf_of_mem_walk {n : Condition} (h : n ∈ c.walk) : n.PartOf c := by
  induction c using induct with
  | leaf target p =>
    rw [walk_leaf, List.mem_singleton] at h
    rw [h]
    exact .self
  | all cs ih =>
    rw [walk_all, List.mem_cons, List.mem_flatMap] at h
    rcases h with rfl | ⟨c, hc, hn⟩
    · exact .self
    · exact .all hc (ih c hc hn)
  | any cs ih =>
    rw [walk_any, List.mem_cons, List.mem_flatMap] at h
    rcases h with rfl | ⟨c, hc, hn⟩
    · exact .self
    · exact .any hc (ih c hc hn)
  | negation c ih =>
    rw [walk_negation, List.mem_cons] at h
    rcases h with rfl | hn
    · exact .self
    · exact .negation (ih hn)
  | blank =>
    rw [walk, List.mem_singleton] at h
    · rw [h]
      exact .self
    all_goals simp
  | foreign v =>
    by_cases null : v = .null
    · rw [null, walk_absent] at h
      cases h
    · rw [walk, List.mem_singleton] at h
      · rw [h]
        exact .self
      all_goals simp [null]

/-! ## Tight trees -/

/-- A node that asks something, but for no neighbours, and if it is a group joins at least two. -/
structure Firm (c : Condition) : Prop where
  asks : c.isEmpty = false
  plain : c.isNearest = false
  several : ∀ cs, c = .all cs ∨ c = .any cs → 2 ≤ cs.length

def Tight (c : Condition) : Prop := ∀ part, PartOf part c → part.Firm

theorem Tight.firm (h : c.Tight) : c.Firm := h c .self

theorem Tight.inside (h : c.Tight) (within : part.PartOf c) : part.Tight :=
  fun inner deeper => h inner (deeper.trans within)

theorem Tight.proper (h : c.Tight) : ∀ n ∈ c.walk, n.Proper := by
  intro n hn
  have tight := h.inside (partOf_of_mem_walk hn)
  cases n with
  | any cs =>
    have several := tight.firm.several cs (.inr rfl)
    refine ⟨?_, fun d hd => (tight d (.any hd .self)).asks⟩
    rintro rfl
    cases several
  | negation child => exact (tight child (.negation .self)).asks
  | _ => trivial

theorem Tight.nearestLeaves (h : c.Tight) : c.nearestLeaves = [] := by
  rw [Condition.nearestLeaves, List.filter_eq_nil_iff]
  intro n hn
  rw [(h n (partOf_of_mem_walk hn)).plain]
  exact Bool.false_ne_true

theorem tight_leaf {target : Target} {p : Predicate} (plain : (leaf target p).isNearest = false) :
    (leaf target p).Tight := by
  intro part inside
  cases inside with
  | self => exact ⟨isEmpty_leaf target p, plain, by rintro cs (e | e) <;> cases e⟩

theorem tight_negation (h : c.Tight) : (negation c).Tight := by
  intro part inside
  cases inside with
  | self => exact ⟨isEmpty_negation c, rfl, by rintro cs (e | e) <;> cases e⟩
  | negation within => exact h part within

theorem tight_all (several : 2 ≤ cs.length) (each : ∀ c ∈ cs, c.Tight) : (all cs).Tight := by
  intro part inside
  cases inside with
  | all member within => exact each _ member part within
  | self =>
    refine ⟨?_, rfl, ?_⟩
    · rw [isEmpty_all, List.all_eq_false]
      obtain ⟨c, hc⟩ := List.exists_mem_of_length_pos (by omega : 0 < cs.length)
      exact ⟨c, hc, by rw [(each c hc).firm.asks]; exact Bool.false_ne_true⟩
    · rintro ds (e | e)
      · cases e
        exact several
      · cases e

theorem tight_any (several : 2 ≤ cs.length) (each : ∀ c ∈ cs, c.Tight) : (any cs).Tight := by
  intro part inside
  cases inside with
  | any member within => exact each _ member part within
  | self =>
    refine ⟨isEmpty_any cs, rfl, ?_⟩
    rintro ds (e | e)
    · cases e
    · cases e
      exact several

theorem tight_and (hl : left.Tight) (hr : right.Tight) : (left.and right).Tight := by
  have two : (all [left, right]).Tight := tight_all (Nat.le_refl 2) (by simp [hl, hr])
  cases left with
  | all cs =>
    have several := hl.firm.several cs (.inl rfl)
    have members : ∀ c ∈ cs, c.Tight := fun c hc => hl.inside (.all hc .self)
    refine tight_all ?_ (List.forall_mem_append.2 ⟨members, List.forall_mem_singleton.2 hr⟩)
    rw [List.length_append]
    omega
  | _ => exact two

theorem tight_or (hl : left.Tight) (hr : right.Tight) : (left.or right).Tight := by
  have two : (any [left, right]).Tight := tight_any (Nat.le_refl 2) (by simp [hl, hr])
  cases left with
  | any cs =>
    have several := hl.firm.several cs (.inr rfl)
    have members : ∀ c ∈ cs, c.Tight := fun c hc => hl.inside (.any hc .self)
    refine tight_any ?_ (List.forall_mem_append.2 ⟨members, List.forall_mem_singleton.2 hr⟩)
    rw [List.length_append]
    omega
  | _ => exact two

/-! ## Joined trees over given leaves -/

variable {leaves : Condition → Prop}

theorem madeOf_and (hl : left.MadeOf leaves) (hr : right.MadeOf leaves) :
    (left.and right).MadeOf leaves := by
  have two : (all [left, right]).MadeOf leaves := madeOf_all.2 (by simp [hl, hr])
  cases left with
  | all cs =>
    exact madeOf_all.2
      (List.forall_mem_append.2 ⟨madeOf_all.1 hl, List.forall_mem_singleton.2 hr⟩)
  | _ => exact two

theorem madeOf_or (hl : left.MadeOf leaves) (hr : right.MadeOf leaves) :
    (left.or right).MadeOf leaves := by
  have two : (any [left, right]).MadeOf leaves := madeOf_any.2 (by simp [hl, hr])
  cases left with
  | any cs =>
    exact madeOf_any.2
      (List.forall_mem_append.2 ⟨madeOf_any.1 hl, List.forall_mem_singleton.2 hr⟩)
  | _ => exact two

end Condition

end TypedQuery
