import TypedQuery.Proofs.Condition.Tight
import TypedQuery.Proofs.Query.LeafPlan
import TypedQuery.Proofs.Search.Chain

/-! # Searches that steps reach

Whatever steps are taken, the tree of a search is tight and has leaves that builders make. Nearest
neighbours stand beside the tree, those of the last call alone, so that the conditions of the search
can always be said in the query language. -/

namespace TypedQuery
set_option autoImplicit false

namespace Condition

/-- A leaf that some builder makes. -/
def Made (l : Condition) : Prop := ∃ (b : Builder) (target : Target), b.make target = .ok l

/-- All predicates are on fields of the schema, and none holds a missing number. -/
def Over (schema : Schema) (c : Condition) : Prop :=
  ∀ target p, leaf target p ∈ c.walk →
    (∃ f ∈ schema.fields, target = .field f .schema) ∧ ∀ v ∈ p.numbers, v.isMissing = false

end Condition

/-! ## Leaves of steps -/

theorem Builder.make_leaf {b : Builder} {target : Target} {l : Condition}
    (made : b.make target = .ok l) : ∃ f origin p, target = .field f origin
      ∧ l = .leaf (.field f origin) p
      ∧ (l.isNearest = true → ∃ k vector scoreAlias, b = .nearest k vector scoreAlias) := by
  cases target with
  | other v => cases b <;> cases made
  | field f origin =>
    refine ⟨f, origin, ?_⟩
    cases b with
    | equals =>
      obtain ⟨_, w, _, rfl⟩ := Condition.equals_eq_ok made
      exact ⟨_, rfl, rfl, by simp [Condition.isNearest]⟩
    | range =>
      obtain ⟨_, lower, upper, _, _, rfl⟩ := Condition.range_eq_ok made
      exact ⟨_, rfl, rfl, by simp [Condition.isNearest]⟩
    | contains value =>
      have listed : Condition.containsAny (.field f origin) (.list [value]) = .ok l := made
      obtain ⟨_, tags, _, _, rfl⟩ := Condition.containsAny_eq_ok listed
      exact ⟨_, rfl, rfl, by simp [Condition.isNearest]⟩
    | containsAny =>
      obtain ⟨_, tags, _, _, rfl⟩ := Condition.containsAny_eq_ok made
      exact ⟨_, rfl, rfl, by simp [Condition.isNearest]⟩
    | terms =>
      obtain ⟨_, t, _, rfl⟩ := Condition.terms_eq_ok made
      exact ⟨_, rfl, rfl, by simp [Condition.isNearest]⟩
    | within =>
      obtain ⟨_, x, y, r, label, _, _, _, _, rfl⟩ := Condition.within_eq_ok made
      exact ⟨_, rfl, rfl, by simp [Condition.isNearest]⟩
    | nearest =>
      obtain ⟨_, n, b, _, _, _, rfl⟩ := Condition.nearest_eq_ok made
      exact ⟨_, rfl, rfl, fun _ => ⟨_, _, _, rfl⟩⟩

/-- The calls of a field use the builders, but not the one for neighbours. -/
theorem FieldCall.condition_made {call : FieldCall} {target : Target} {l : Condition}
    (made : call.condition target = .ok l) : ∃ b : Builder, b.make target = .ok l
      ∧ ∀ k vector scoreAlias, b ≠ .nearest k vector scoreAlias := by
  unfold condition at made
  split at made
  case h_1 v => exact ⟨.equals v, made, by simp⟩
  case h_2 v inclusive => exact ⟨.range v .null (.bool inclusive) (.bool true), made, by simp⟩
  case h_3 v inclusive => exact ⟨.range .null v (.bool true) (.bool inclusive), made, by simp⟩
  case h_4 v w => exact ⟨.range v w (.bool true) (.bool true), made, by simp⟩
  case h_5 v exact => exact ⟨.terms v (.bool exact), made, by simp⟩
  case h_6 v => exact ⟨.contains v, made, by simp⟩
  case h_7 tag => exact ⟨.containsAny (.tuple [.text tag]), made, by simp⟩
  case h_8 v _ =>
    obtain ⟨members, _, made⟩ := bind_eq_ok.1 made
    exact ⟨.containsAny (.tuple members), made, by simp⟩
  case h_9 vs _ _ => exact ⟨.containsAny (.tuple vs), made, by simp⟩
  case h_10 x y r unit => exact ⟨.within x y r unit, made, by simp⟩

/-! ## What steps keep -/

/-- A property that conditions of fields have and that the operators keep. -/
structure Condition.Kept (P : Condition → Prop) : Prop where
  leaf : ∀ call target l, FieldCall.condition call target = .ok l → P l
  not : ∀ c, P c → P c.not
  and : ∀ c d, P c → P d → P (c.and d)
  or : ∀ c d, P c → P d → P (c.or d)

section Kept

variable {P : Condition → Prop} {schema : Schema} {before part : Option Condition}

theorem Condition.Kept.negated (kept : Condition.Kept P) {c : Condition} (count : Nat) (h : P c) :
    P (Connectives.trees.negated count c) := by
  unfold Connectives.negated
  split
  · exact kept.not c h
  · exact h

theorem Condition.Kept.merge (kept : Condition.Kept P) (join : Join) (h : ∀ c ∈ before, P c)
    (hp : ∀ c ∈ part, P c) : ∀ c ∈ before.merge (Connectives.trees.join join) part, P c := by
  cases before with
  | none => cases part <;> exact hp
  | some c =>
    cases part with
    | none => exact h
    | some d =>
      have both : P (Connectives.trees.join join c d) := by
        cases join with
        | and => exact kept.and c d (h c rfl) (hp d rfl)
        | or => exact kept.or c d (h c rfl) (hp d rfl)
      intro e he
      cases he
      exact both

mutual

theorem Link.onto_kept (kept : Condition.Kept P) : ∀ (link : Link) {step : Step}
    {before : Option Condition}, step.Reads schema link → (∀ c ∈ before, P c) →
      ∀ c ∈ link.onto .trees before, P c
  | .condition join negations leaf, _, _, reads, h => by
    cases reads with
    | field _ _ built =>
      rw [onto]
      refine kept.merge join h ?_
      intro c hc
      cases hc
      exact kept.negated negations (kept.leaf _ _ leaf built)
  | .group join links, _, _, reads, h => by
    cases reads with
    | group reads _ =>
      rw [onto]
      exact kept.merge join h (Link.fold_kept kept links reads (by simp))
  | .nearest _, _, _, _, h => by
    rw [onto]
    exact h
  | .sort .., _, _, _, h => by
    rw [onto]
    exact h

theorem Link.fold_kept (kept : Condition.Kept P) : ∀ (links : List Link) {steps : List Step}
    {before : Option Condition}, List.Forall₂ (Step.Reads schema) steps links →
      (∀ c ∈ before, P c) → ∀ c ∈ Link.fold .trees before links, P c
  | [], _, _, _, h => by
    rw [fold]
    exact h
  | link :: rest, _, _, reads, h => by
    cases reads with
    | cons first others =>
      rw [fold]
      exact Link.fold_kept kept rest others (Link.onto_kept kept link first h)

end

end Kept

namespace Search

open Condition

variable {schema : Schema} {settings : Settings} {steps : List Step} {s : Search}

/-! ## The invariant -/

/-- A search whose tree is tight and has leaves that builders make, with at most one predicate for
neighbours beside it. -/
structure WellFormed (s : Search) : Prop where
  tight : ∀ node ∈ s.node, node.Tight
  made : ∀ node ∈ s.node, node.MadeOf Made
  near : ∀ l ∈ s.nearest, Made l ∧ l.isNearest = true

theorem tight_kept : Kept Tight where
  leaf call target l built := by
    obtain ⟨b, made, other⟩ := FieldCall.condition_made built
    obtain ⟨f, origin, p, _, rfl, near⟩ := Builder.make_leaf made
    refine tight_leaf ?_
    cases found : (leaf (.field f origin) p).isNearest with
    | false => rfl
    | true =>
      obtain ⟨k, vector, scoreAlias, same⟩ := near found
      exact absurd same (other k vector scoreAlias)
  not _ := tight_negation
  and _ _ := tight_and
  or _ _ := tight_or

theorem madeOf_kept : Kept (MadeOf Made) where
  leaf call target l built := by
    obtain ⟨b, made, _⟩ := FieldCall.condition_made built
    obtain ⟨f, origin, p, _, rfl, _⟩ := Builder.make_leaf made
    exact madeOf_leaf.2 ⟨b, target, made⟩
  not _ := madeOf_negation.2
  and _ _ := madeOf_and
  or _ _ := madeOf_or

theorem nearest_reads {links : List Link} (reads : List.Forall₂ (Step.Reads schema) steps links) :
    ∀ l ∈ (links.filterMap Link.nearest?).getLast?, Made l ∧ l.isNearest = true := by
  intro l hl
  obtain ⟨link, member, found⟩ := List.mem_filterMap.1 (List.mem_of_getLast? hl)
  obtain ⟨step, _, read⟩ := exists_left_of_mem reads member
  cases read with
  | @nearest _ field k vector scoreAlias _ _ built =>
    cases found
    have made : (Builder.nearest k vector scoreAlias).make field = .ok l := built
    refine ⟨⟨_, _, made⟩, ?_⟩
    obtain ⟨f, origin, p, rfl, rfl, _⟩ := Builder.make_leaf made
    obtain ⟨_, n, b, _, _, _, same⟩ := nearest_eq_ok built
    rw [same]
    rfl
  | _ => cases found

theorem wellFormed_reads {links : List Link}
    (reads : List.Forall₂ (Step.Reads schema) steps links) :
    (links.foldl add (start schema settings)).WellFormed where
  tight := by
    rw [node_foldl]
    exact Link.fold_kept tight_kept links reads (by simp [start])
  made := by
    rw [node_foldl]
    exact Link.fold_kept madeOf_kept links reads (by simp [start])
  near := by
    rw [nearest_foldl]
    simpa [start] using nearest_reads reads

/-! ## The conditions of a search -/

theorem WellFormed.nearestLeaves (h : s.WellFormed) :
    s.conditions.nearestLeaves = s.nearest.toList := by
  unfold conditions
  cases node : s.node with
  | none =>
    cases near : s.nearest with
    | none => simp [Condition.nearestLeaves]
    | some l => exact nearestLeaves_of_isNearest (h.near l near).2
  | some tree =>
    have plain := (h.tight tree node).nearestLeaves
    cases near : s.nearest with
    | none => exact plain
    | some l => simp [plain, nearestLeaves_of_isNearest (h.near l near).2]

theorem WellFormed.onTop (h : s.WellFormed) {l : Condition} (found : l ∈ s.conditions.nearestLeaves) :
    s.conditions = l ∨ ∃ cs, s.conditions = .all cs ∧ l ∈ cs := by
  rw [h.nearestLeaves, Option.mem_toList] at found
  unfold conditions
  rw [found]
  cases s.node with
  | none => exact .inl rfl
  | some tree => exact .inr ⟨[tree, l], rfl, by simp⟩

theorem forall_mem_walk_conditions {P : Condition → Prop} (groups : ∀ cs, P (all cs))
    (tree : ∀ node ∈ s.node, ∀ n ∈ node.walk, P n) (near : ∀ l ∈ s.nearest, ∀ n ∈ l.walk, P n) :
    ∀ n ∈ s.conditions.walk, P n := by
  unfold conditions
  cases held : s.node with
  | none =>
    cases found : s.nearest with
    | none => simp
    | some l => exact near l found
  | some node =>
    cases found : s.nearest with
    | none => exact tree node held
    | some l =>
      rw [forall_mem_walk_all groups]
      simpa using ⟨tree node held, near l found⟩

theorem WellFormed.madeOf (h : s.WellFormed) : s.conditions.MadeOf Made := by
  refine forall_mem_walk_conditions (fun _ => .inl rfl) h.made fun l hl => ?_
  obtain ⟨made, found⟩ := h.near l hl
  obtain ⟨target, k, vector, scoreAlias, rfl⟩ := isNearest_eq_true found
  exact madeOf_leaf.2 made

theorem WellFormed.proper (h : s.WellFormed) : ∀ n ∈ s.conditions.walk, n.Proper := by
  refine forall_mem_walk_conditions (fun _ => trivial) (fun node hn => (h.tight node hn).proper) ?_
  intro l hl
  obtain ⟨target, k, vector, scoreAlias, rfl⟩ := isNearest_eq_true (h.near l hl).2
  simp [Proper]

theorem WellFormed.expressible (h : s.WellFormed) : s.conditions.Expressible where
  proper := h.proper
  once := by
    rw [h.nearestLeaves]
    cases s.nearest <;> simp
  onTop _ := h.onTop

theorem madeOf_sound {c : Condition} (made : c.MadeOf Made) (declared : c.Over schema) :
    c.MadeOf (Sound schema) := by
  intro n hn
  refine (made n hn).imp_right ?_
  rintro ⟨b, target, built⟩
  obtain ⟨f, origin, p, rfl, rfl, _⟩ := Builder.make_leaf built
  obtain ⟨⟨g, declared, same⟩, present⟩ := declared _ _ hn
  cases same
  exact ⟨b.built declared built, present⟩

/-! ## Every search that is reached -/

/-- A search that is reached from the start has a tight tree, or none. Its conditions ask for the
neighbours of the last call, on top, and for no others. If all its predicates are on fields of the
schema and no number is missing, then its conditions have a plan, unless a number in them has too many
digits to be written; then they fail, but not by a fault of the query. -/
theorem reached_expressible (reached : (start schema settings).applyAll steps = .ok s) :
    (∀ node, s.node = some node → node.Tight)
      ∧ (∃ links, List.Forall₂ (Step.Reads schema) steps links
        ∧ s.conditions.nearestLeaves = (links.filterMap Link.nearest?).getLast?.toList)
      ∧ (∀ l ∈ s.conditions.nearestLeaves,
        s.conditions = l ∨ ∃ cs, s.conditions = .all cs ∧ l ∈ cs)
      ∧ (s.conditions.Over schema →
        ((∀ n ∈ s.conditions.walk, n.Writable) →
          ∃ plan, (Compiler.mk schema {}).compile s.conditions {} = .ok plan)
        ∧ (¬ (∀ n ∈ s.conditions.walk, n.Writable) →
          (Compiler.mk schema {}).compile s.conditions {} = .error (.misuse .badValue))) := by
  obtain ⟨links, reads, rfl⟩ := (applyAll_eq_ok ..).1 reached
  have well : (links.foldl add (start schema settings)).WellFormed := wellFormed_reads reads
  refine ⟨well.tight, ⟨links, reads, ?_⟩, fun l => well.onTop, fun declared => ?_⟩
  · rw [well.nearestLeaves, nearest_foldl]
    simp [start]
  · have sound := madeOf_sound well.madeOf declared
    refine ⟨fun writable => ?_, Compiler.compile_of_overlong sound well.expressible⟩
    obtain ⟨plan, compiled, _⟩ := (Compiler.compile_decides_default sound).exists_ok
      fun e why => why.not_planned ⟨well.expressible, writable⟩
    exact ⟨plan, compiled⟩

/-- Hats, and others that look alike: of the two calls for neighbours the last one counts. -/
theorem reached_expressible_hats :
    ∃ s plan, (start Products.schema {}).applyAll [Products.hatStep .and 0,
        Products.alikeStep (.text "near"), Products.hatStep .or 1, Products.alikeStep .null] = .ok s
      ∧ s.conditions.nearestLeaves = [Products.looksAlike .null]
      ∧ (Compiler.mk Products.schema {}).compile s.conditions {} = .ok plan := by
  have reached : (start Products.schema {}).applyAll [Products.hatStep .and 0,
      Products.alikeStep (.text "near"), Products.hatStep .or 1, Products.alikeStep .null]
      = .ok { start Products.schema {} with
        node := some (.any [Products.isHat, .negation Products.isHat])
        nearest := some (Products.looksAlike .null) } := rfl
  have declared : (Condition.all [.any [Products.isHat, .negation Products.isHat],
      Products.looksAlike .null]).Over Products.schema := by
    intro target p found
    have leaf : Condition.leaf target p = Products.isHat
        ∨ Condition.leaf target p = Products.looksAlike .null := by
      simpa [Products.isHat, Products.looksAlike] using found
    rcases leaf with e | e
    · cases e
      exact ⟨⟨Products.kind, List.mem_cons_self .., rfl⟩,
        by simp [Predicate.numbers, Value.isMissing]⟩
    · cases e
      exact ⟨⟨Products.image, List.mem_cons_of_mem _ (List.mem_cons_self ..), rfl⟩,
        by simp [Predicate.numbers]⟩
  have writable : ∀ n ∈ (Condition.all [.any [Products.isHat, .negation Products.isHat],
      Products.looksAlike .null]).walk, n.Writable := by
    simp [Products.isHat, Products.looksAlike, Writable, spelled, Predicate.spelled,
      Predicate.numbers]
  obtain ⟨plan, compiled⟩ := ((reached_expressible reached).2.2.2 declared).1 writable
  exact ⟨_, plan, reached, rfl, compiled⟩

/-- A search for a price of more digits than can be written is reached, and its conditions have no
plan. -/
theorem reached_beyond_writing :
    ∃ s, (start Products.priced {}).applyAll [Products.costsStep integerBound] = .ok s
      ∧ s.conditions.Over Products.priced
      ∧ (Compiler.mk Products.priced {}).compile s.conditions {} = .error (.misuse .badValue) := by
  have reached : (start Products.priced {}).applyAll [Products.costsStep integerBound]
      = .ok { start Products.priced {} with node := some (Products.costs integerBound) } := rfl
  have declared : (Products.costs integerBound).Over Products.priced := by
    intro target p found
    cases List.mem_singleton.1 found
    exact ⟨⟨Products.price, List.mem_singleton_self _, rfl⟩, List.forall_mem_singleton.2 rfl⟩
  exact ⟨_, reached, declared, Products.compile_costs_overlong isShort_integerBound⟩

end Search

end TypedQuery
