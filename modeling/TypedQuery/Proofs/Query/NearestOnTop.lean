import TypedQuery.Proofs.Query.Canonical
import TypedQuery.Query.Compile

/-! # The nearest-neighbour predicate on top

A tree with one such predicate, at its root or directly below a conjunction at the root, is that
predicate or a conjunction around it. What is left without it means the conjunction of the other
children, whether one or several of them remain. -/

namespace TypedQuery.Condition
set_option autoImplicit false

/-! ## Finding it -/

@[simp] theorem nearestLeaves_all (cs : List Condition) :
    (all cs).nearestLeaves = cs.flatMap nearestLeaves := by
  rw [nearestLeaves, walk_all, List.filter_cons_of_neg (by simp [isNearest]), List.filter_flatMap]
  rfl

theorem isNearest_eq_true {c : Condition} (h : c.isNearest = true) :
    ∃ target k vector scoreAlias, c = leaf target (.nearest k vector scoreAlias) := by
  cases c with
  | leaf target p =>
    cases p with
    | nearest k vector scoreAlias => exact ⟨_, _, _, _, rfl⟩
    | _ => simp [isNearest] at h
  | _ => simp [isNearest] at h

theorem nearestLeaves_of_isNearest {c : Condition} (h : c.isNearest = true) :
    c.nearestLeaves = [c] := by
  obtain ⟨target, k, vector, scoreAlias, rfl⟩ := isNearest_eq_true h
  rw [nearestLeaves, walk_leaf, List.filter_cons_of_pos h, List.filter_nil]

theorem isNearest_of_mem_nearestLeaves {c l : Condition} (h : l ∈ c.nearestLeaves) :
    l.isNearest = true :=
  (List.mem_filter.1 h).2

/-! ## Its place -/

/-- The tree is the leaf, or a conjunction with the leaf among its children; the others, in their
order, are these. -/
def Around (c l : Condition) (others : List Condition) : Prop :=
  (c = l ∧ others = [])
    ∨ ∃ before after, c = all (before ++ l :: after) ∧ others = before ++ after

/-- One predicate on top is the root, or has siblings that hold no other. -/
theorem around_of_onTop {c l : Condition} (once : c.nearestLeaves = [l])
    (top : c.nearestOnTop = true) :
    ∃ others, c.Around l others ∧ others.flatMap nearestLeaves = [] := by
  unfold nearestOnTop at top
  split at top
  · rename_i cs
    obtain ⟨m, hm, near⟩ := List.any_eq_true.1 top
    obtain ⟨before, after, rfl⟩ := List.append_of_mem hm
    rw [nearestLeaves_all, List.flatMap_append, List.flatMap_cons, nearestLeaves_of_isNearest near,
      List.append_eq_singleton_iff] at once
    have apart : before.flatMap nearestLeaves = [] ∧ after.flatMap nearestLeaves = [] ∧ m = l := by
      rcases once with ⟨hb, e⟩ | ⟨_, e⟩
      · rw [List.singleton_append, List.cons.injEq] at e
        exact ⟨hb, e.2, e.1⟩
      · simp at e
    obtain ⟨hb, ha, rfl⟩ := apart
    refine ⟨before ++ after, .inr ⟨before, after, rfl, rfl⟩, ?_⟩
    rw [List.flatMap_append, hb, ha, List.append_nil]
  · rw [nearestLeaves_of_isNearest top] at once
    exact ⟨[], .inl ⟨(List.cons.inj once).1, rfl⟩, rfl⟩

/-! ## The rest of the tree -/

variable {c l : Condition} {others : List Condition}

theorem forall_mem_walk_all {P : Condition → Prop} (groups : ∀ cs, P (all cs))
    (cs : List Condition) : (∀ n ∈ (all cs).walk, P n) ↔ ∀ d ∈ cs, ∀ n ∈ d.walk, P n := by
  rw [walk_all, List.forall_mem_cons]
  simp only [groups cs, true_and, List.mem_flatMap]
  exact ⟨fun h d hd n hn => h n ⟨d, hd, hn⟩, fun h n ⟨d, hd, hn⟩ => h d hd n hn⟩

theorem forall_mem_walk_of_around {P : Condition → Prop} (groups : ∀ cs, P (all cs)) (leaf : P l)
    (near : l.isNearest = true) (place : c.Around l others) :
    (∀ n ∈ c.walk, P n) ↔ ∀ d ∈ others, ∀ n ∈ d.walk, P n := by
  have alone : l.walk = [l] := by
    obtain ⟨target, k, vector, scoreAlias, rfl⟩ := isNearest_eq_true near
    exact walk_leaf _ _
  rcases place with ⟨rfl, rfl⟩ | ⟨before, after, rfl, rfl⟩
  · simp [alone, leaf]
  · rw [forall_mem_walk_all groups]
    simp only [List.mem_append, List.mem_cons, or_imp, forall_and, forall_eq, alone]
    simp [leaf]

/-- The rest of the tree: the only other child, or the conjunction of the others. At the root there
is none. -/
theorem withoutNearest_of_around (near : l.isNearest = true) (place : c.Around l others)
    (apart : others.flatMap nearestLeaves = []) :
    (c.withoutNearest = absent ∧ others = []) ∨ (∃ child, c.withoutNearest = child ∧ others = [child])
      ∨ c.withoutNearest = all others := by
  rcases place with ⟨rfl, none⟩ | ⟨before, after, rfl, rfl⟩
  · obtain ⟨target, k, vector, scoreAlias, rfl⟩ := isNearest_eq_true near
    exact .inl ⟨rfl, none⟩
  · -- every predicate of the kind is taken out, and there is no second one
    have keep : ∀ d ∈ before ++ after, (!d.isNearest) = true := by
      intro d hd
      cases found : d.isNearest with
      | false => rfl
      | true =>
        have empty := List.flatMap_eq_nil_iff.1 apart d hd
        rw [nearestLeaves_of_isNearest found] at empty
        cases empty
    have kept : (before ++ l :: after).filter (fun d => !d.isNearest) = before ++ after := by
      rw [List.filter_append, List.filter_cons_of_neg (by simp [near]), ← List.filter_append]
      exact List.filter_eq_self.2 keep
    right
    simp only [withoutNearest, kept]
    split
    · rename_i child only
      exact .inl ⟨child, rfl, only⟩
    · exact .inr rfl

variable (near : l.isNearest = true) (place : c.Around l others)
  (apart : others.flatMap nearestLeaves = [])
include near place apart

theorem forall_mem_walk_withoutNearest {P : Condition → Prop} (groups : ∀ cs, P (all cs)) :
    (∀ n ∈ c.withoutNearest.walk, P n) ↔ ∀ d ∈ others, ∀ n ∈ d.walk, P n := by
  rcases withoutNearest_of_around near place apart with ⟨e, rfl⟩ | ⟨child, e, rfl⟩ | e
  · simp [e]
  · simp [e]
  · rw [e, forall_mem_walk_all groups]

theorem madeOf_withoutNearest {leaves : Condition → Prop}
    (made : c.MadeOf fun n => n.isNearest = true ∨ leaves n) : c.withoutNearest.MadeOf leaves := by
  have known := (forall_mem_walk_of_around (fun _ => .inl rfl) (.inr (.inl near)) near place).1 made
  refine (forall_mem_walk_withoutNearest near place apart fun _ => .inl rfl).2 ?_
  intro d hd n hn
  rcases known d hd n hn with group | again | leaf
  · exact .inl group
  · have found : n ∈ d.nearestLeaves := List.mem_filter.2 ⟨hn, again⟩
    rw [List.flatMap_eq_nil_iff.1 apart d hd] at found
    cases found
  · exact .inr leaf

end TypedQuery.Condition
