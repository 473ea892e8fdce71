import TypedQuery.Condition.Basic

/-! # Trees of conditions

Induction over trees, what walking through a tree meets, and which trees ask nothing. -/

namespace TypedQuery.Condition
set_option autoImplicit false

/-! ## Induction -/

mutual

/-- Induction over trees: a tree may use the claim for each of its children. -/
theorem induct {motive : Condition → Prop}
    (leaf : ∀ target predicate, motive (.leaf target predicate))
    (all : ∀ children, (∀ c ∈ children, motive c) → motive (.all children))
    (any : ∀ children, (∀ c ∈ children, motive c) → motive (.any children))
    (negation : ∀ child, motive child → motive (.negation child))
    (blank : motive .blank) (foreign : ∀ v, motive (.foreign v)) : ∀ c, motive c
  | .leaf target predicate => leaf target predicate
  | .all children => all children (inductEach leaf all any negation blank foreign children)
  | .any children => any children (inductEach leaf all any negation blank foreign children)
  | .negation child => negation child (induct leaf all any negation blank foreign child)
  | .blank => blank
  | .foreign v => foreign v

theorem inductEach {motive : Condition → Prop}
    (leaf : ∀ target predicate, motive (.leaf target predicate))
    (all : ∀ children, (∀ c ∈ children, motive c) → motive (.all children))
    (any : ∀ children, (∀ c ∈ children, motive c) → motive (.any children))
    (negation : ∀ child, motive child → motive (.negation child))
    (blank : motive .blank) (foreign : ∀ v, motive (.foreign v)) :
    ∀ children : List Condition, ∀ c ∈ children, motive c
  | [], _, h => by simp at h
  | d :: rest, c, h => by
    rcases List.mem_cons.1 h with e | h
    · rw [e]
      exact induct leaf all any negation blank foreign d
    · exact inductEach leaf all any negation blank foreign rest c h

end

/-! ## Walking -/

theorem walkAll_eq (cs : List Condition) : walkAll cs = cs.flatMap walk := by
  induction cs with
  | nil => rfl
  | cons c rest ih =>
    change c.walk ++ walkAll rest = _
    rw [ih, List.flatMap_cons]

@[simp] theorem walk_leaf (target : Target) (predicate : Predicate) :
    (leaf target predicate).walk = [leaf target predicate] := rfl

@[simp] theorem walk_all (cs : List Condition) : (all cs).walk = all cs :: cs.flatMap walk := by
  rw [← walkAll_eq]
  rfl

@[simp] theorem walk_any (cs : List Condition) : (any cs).walk = any cs :: cs.flatMap walk := by
  rw [← walkAll_eq]
  rfl

@[simp] theorem walk_negation (c : Condition) : (negation c).walk = negation c :: c.walk := rfl

@[simp] theorem walk_absent : absent.walk = [] := rfl

/-! ## Trees that ask nothing -/

theorem allEmpty_eq (cs : List Condition) : allEmpty cs = cs.all isEmpty := by
  induction cs with
  | nil => rfl
  | cons c rest ih =>
    change (c.isEmpty && allEmpty rest) = _
    rw [ih, List.all_cons]

@[simp] theorem isEmpty_all (cs : List Condition) : (all cs).isEmpty = cs.all isEmpty := allEmpty_eq cs

@[simp] theorem isEmpty_any (cs : List Condition) : (any cs).isEmpty = false := rfl

@[simp] theorem isEmpty_negation (c : Condition) : (negation c).isEmpty = false := rfl

@[simp] theorem isEmpty_leaf (target : Target) (predicate : Predicate) :
    (leaf target predicate).isEmpty = false := rfl

@[simp] theorem isEmpty_absent : absent.isEmpty = true := rfl

/-- Nothing but conjunctions is met in a tree that asks nothing. -/
theorem mem_walk_of_isEmpty {c n : Condition} (empty : c.isEmpty = true) (h : n ∈ c.walk) :
    ∃ cs, n = all cs ∧ n.isEmpty = true := by
  induction c using induct with
  | leaf target predicate => simp at empty
  | all cs ih =>
    rw [walk_all, List.mem_cons, List.mem_flatMap] at h
    rcases h with rfl | ⟨c, hc, hn⟩
    · exact ⟨cs, rfl, empty⟩
    · rw [isEmpty_all, List.all_eq_true] at empty
      exact ih c hc (empty c hc) hn
  | any cs ih => simp at empty
  | negation c ih => simp at empty
  | blank => simp [isEmpty] at empty
  | foreign v => cases v <;> simp [isEmpty] at empty h

/-! ## Trees over given leaves -/

def isGroup : Condition → Bool
  | .all _ => true
  | .any _ => true
  | .negation _ => true
  | _ => false

/-- Every node met is a group or one of these leaves. -/
def MadeOf (leaves : Condition → Prop) (c : Condition) : Prop :=
  ∀ n ∈ c.walk, n.isGroup = true ∨ leaves n

variable {leaves : Condition → Prop}

theorem madeOf_leaf {target : Target} {predicate : Predicate} :
    MadeOf leaves (leaf target predicate) ↔ leaves (leaf target predicate) := by
  simp [MadeOf, isGroup]

theorem madeOf_all {cs : List Condition} :
    MadeOf leaves (all cs) ↔ ∀ c ∈ cs, MadeOf leaves c := by
  simp only [MadeOf, walk_all, List.mem_cons, List.mem_flatMap, forall_eq_or_imp, isGroup,
    true_or, true_and, forall_exists_index, and_imp]
  exact ⟨fun h c hc n => h n c hc, fun h n c hc => h c hc n⟩

theorem madeOf_any {cs : List Condition} :
    MadeOf leaves (any cs) ↔ ∀ c ∈ cs, MadeOf leaves c := by
  simp only [MadeOf, walk_any, List.mem_cons, List.mem_flatMap, forall_eq_or_imp, isGroup,
    true_or, true_and, forall_exists_index, and_imp]
  exact ⟨fun h c hc n => h n c hc, fun h n c hc => h c hc n⟩

theorem madeOf_negation {c : Condition} :
    MadeOf leaves (negation c) ↔ MadeOf leaves c := by
  simp [MadeOf, isGroup]

theorem MadeOf.mono {more : Condition → Prop} {c : Condition} (h : MadeOf leaves c)
    (sub : ∀ n ∈ c.walk, leaves n → more n) : MadeOf more c :=
  fun n hn => (h n hn).imp_right (sub n hn)

/-- What is made of leaves that are predicates is no condition of unknown kind and no value other
than nothing. -/
theorem MadeOf.shape {c : Condition} (h : MadeOf leaves c)
    (known : ∀ n, leaves n → ∃ target predicate, n = leaf target predicate) :
    c = absent ∨ (∃ target predicate, c = leaf target predicate) ∨ c.isGroup = true := by
  cases c with
  | leaf target predicate => exact .inr (.inl ⟨_, _, rfl⟩)
  | all cs => exact .inr (.inr rfl)
  | any cs => exact .inr (.inr rfl)
  | negation c => exact .inr (.inr rfl)
  | blank =>
    rcases h blank (by simp [walk]) with e | l
    · simp [isGroup] at e
    · obtain ⟨_, _, e⟩ := known _ l
      cases e
  | foreign v =>
    by_cases hv : v = .null
    · exact .inl (by rw [hv])
    · have met : foreign v ∈ (foreign v).walk := by
        cases v <;> simp [walk] at hv ⊢
      rcases h _ met with e | l
      · simp [isGroup] at e
      · obtain ⟨_, _, e⟩ := known _ l
        cases e

end TypedQuery.Condition
