import TypedQuery.Proofs.Query.EmissionOutcome

/-! # Which trees have a plan

Under the settings and options that hold unless others are given, a tree of sound leaves has a plan
just when it can be said in the query language and all that it holds can be written. A tree that
cannot be said is the fault of the query. -/

namespace TypedQuery
set_option autoImplicit false

/-! ## Trees that can be said -/

/-- The trees that can be said in the query language: all nodes are proper, and nearest neighbours
are asked for at most once, at the root or directly below a conjunction at the root. -/
structure Condition.Expressible (c : Condition) : Prop where
  proper : ∀ n ∈ c.walk, n.Proper
  once : c.nearestLeaves.length ≤ 1
  onTop : ∀ l ∈ c.nearestLeaves, c = l ∨ ∃ cs, c = .all cs ∧ l ∈ cs

namespace Condition

variable {c l : Condition}

theorem forall_plain_iff : (∀ n ∈ c.walk, n.Plain) ↔
    (∀ n ∈ c.walk, n.Proper) ∧ c.nearestLeaves = [] := by
  rw [nearestLeaves, List.filter_eq_nil_iff]
  simp only [Plain, forall_and, Bool.not_eq_true]

theorem expressible_of_none (none : c.nearestLeaves = []) :
    c.Expressible ↔ ∀ n ∈ c.walk, n.Plain := by
  rw [forall_plain_iff]
  constructor
  · exact fun h => ⟨h.proper, none⟩
  · exact fun h => ⟨h.1, by simp [none], by simp [none]⟩

theorem nearestOnTop_iff (near : l.isNearest = true) (once : c.nearestLeaves = [l]) :
    c.nearestOnTop = true ↔ c = l ∨ ∃ cs, c = .all cs ∧ l ∈ cs := by
  constructor
  · intro top
    obtain ⟨others, place, _⟩ := around_of_onTop once top
    rcases place with ⟨e, _⟩ | ⟨before, after, e, _⟩
    · exact .inl e
    · exact .inr ⟨_, e, by simp⟩
  · rintro (rfl | ⟨cs, rfl, hl⟩)
    · obtain ⟨target, k, vector, scoreAlias, rfl⟩ := isNearest_eq_true near
      exact near
    · exact List.any_eq_true.2 ⟨l, hl, near⟩

theorem expressible_of_onTop (near : l.isNearest = true) (once : c.nearestLeaves = [l])
    (top : c.nearestOnTop = true) :
    c.Expressible ↔ ∀ n ∈ c.withoutNearest.walk, n.Plain := by
  obtain ⟨others, place, apart⟩ := around_of_onTop once top
  have proper_leaf : l.Proper := by
    obtain ⟨target, k, vector, scoreAlias, rfl⟩ := isNearest_eq_true near
    trivial
  have others_plain : (∀ d ∈ others, ∀ n ∈ d.walk, n.Plain) ↔ ∀ d ∈ others, ∀ n ∈ d.walk, n.Proper := by
    refine forall₂_congr fun d hd => ?_
    rw [forall_plain_iff, and_iff_left (List.flatMap_eq_nil_iff.1 apart d hd)]
  rw [forall_mem_walk_withoutNearest near place apart fun cs => (clear_all cs).plain, others_plain,
    ← forall_mem_walk_of_around (fun _ => trivial) proper_leaf near place]
  constructor
  · exact fun h => h.proper
  · refine fun h => ⟨h, by simp [once], ?_⟩
    intro m hm
    rw [once, List.mem_singleton] at hm
    rw [hm]
    exact (nearestOnTop_iff near once).1 top

theorem forall_writable_of_onTop (near : l.isNearest = true) (once : c.nearestLeaves = [l])
    (top : c.nearestOnTop = true) :
    (∀ n ∈ c.walk, n.Writable) ↔ l.Writable ∧ ∀ n ∈ c.withoutNearest.walk, n.Writable := by
  obtain ⟨others, place, apart⟩ := around_of_onTop once top
  have groups (cs : List Condition) : (all cs).Writable := (clear_all cs).writable
  have inside : l ∈ c.walk := (List.mem_filter.1 (once ▸ List.mem_singleton_self l)).1
  rw [forall_mem_walk_withoutNearest near place apart groups]
  constructor
  · exact fun h => ⟨h l inside, (forall_mem_walk_of_around groups (h l inside) near place).1 h⟩
  · exact fun h => (forall_mem_walk_of_around groups h.1 near place).2 h.2

/-- Why a tree has no plan: it cannot be said, or holds what cannot be written. -/
inductive Unplanned (c : Condition) : Error → Prop
  | query {fault : QueryFault} : ¬ c.Expressible → Unplanned c (.query fault)
  | overlong : ¬ (∀ n ∈ c.walk, n.Writable) → Unplanned c (.misuse .badValue)

/-- A tree with a plan: it can be said, and what it holds can be written. -/
structure Planned (c : Condition) : Prop where
  expressible : c.Expressible
  writable : ∀ n ∈ c.walk, n.Writable

theorem Unplanned.not_planned {e : Error} (h : c.Unplanned e) : ¬ c.Planned := by
  intro planned
  cases h with
  | query why => exact why planned.expressible
  | overlong why => exact why planned.writable

end Condition

/-! ## The nearest-neighbour predicate -/

namespace Compiler

open Condition Schema

variable {s : Schema}

theorem fill_default (name : String) :
    Template.fill "field" name "__\x7bfield\x7d_score" = .ok ("__" ++ name ++ "_score") := by
  have filled : Template.fillTo "field" name.toList 2 "__\x7bfield\x7d_score".toList
      = .ok ("__".toList ++ (name.toList ++ "_score".toList)) := rfl
  rw [Template.fill, filled, Except.map, ← String.toList_append, ← String.toList_append,
    String.ofList_toList, String.append_assoc]

/-- The distance column can be written unless it is an alias that cannot. -/
theorem scoreColumn_default (clause : NearestClause) :
    ∃ column, (Compiler.mk s {}).scoreColumn clause = .ok column
      ∧ column.isWritable = clause.scoreAlias.isWritable := by
  unfold scoreColumn
  split
  · exact ⟨_, rfl, rfl⟩
  · rename_i unnamed
    dsimp only
    rw [fill_default, Value.isWritable_of_not_truthy (Bool.not_eq_true _ ▸ unnamed)]
    exact ⟨_, rfl, rfl⟩

theorem nearestClause?_of_built {settings : Settings} {node l : Condition} (built : l.Built s)
    (near : l.isNearest = true) (once : node.nearestLeaves = [l])
    (top : node.nearestOnTop = true) :
    ∃ clause, (Compiler.mk s settings).nearestClause? node = .ok (some clause)
      ∧ clause.k.isWritable = true ∧ (l.Writable ↔ clause.scoreAlias.isWritable = true) := by
  obtain ⟨f, p, declared, rfl, made⟩ := built.wellMade
  cases made with
  | @nearest params k b scoreAlias hp low high size =>
    have short : isShort k = true := by
      have few : (mostNeighbours : Int) = 10000 := rfl
      exact isShort_of_lt (by omega)
    refine ⟨⟨f, .int k, .bytes b, scoreAlias⟩, ?_, (Value.isWritable_int k).trans short,
      List.forall_mem_singleton⟩
    have fits : params.checkValueLength (.bytes b) = .ok () := by
      simp [VectorParams.checkValueLength, VectorParams.checkLength, Value.length, size]
    simp [nearestClause?, once, top, checkDeclared_of_mem declared, hp, fits]
  | _ => simp [isNearest] at near

theorem nearestClause?_of_none {settings : Settings} {node : Condition}
    (none : node.nearestLeaves = []) :
    (Compiler.mk s settings).nearestClause? node = .ok .none := by
  simp [nearestClause?, none]

theorem nearestClause?_of_deep {settings : Settings} {node l : Condition}
    (near : l.isNearest = true) (once : node.nearestLeaves = [l])
    (deep : node.nearestOnTop = false) :
    (Compiler.mk s settings).nearestClause? node = .error (.query .neighboursNested) := by
  obtain ⟨target, k, vector, scoreAlias, rfl⟩ := isNearest_eq_true near
  simp [nearestClause?, once, deep]

theorem nearestClause?_of_several {settings : Settings} {node : Condition}
    (several : 1 < node.nearestLeaves.length) :
    (Compiler.mk s settings).nearestClause? node = .error (.query .neighboursTwice) := by
  unfold nearestClause?
  split
  · rename_i e
    simp [e] at several
  · rename_i e
    simp [e] at several
  · rfl

/-! ## Questions and plans -/

theorem question_decides_plain {node : Condition} (made : node.MadeOf (Sound s))
    (none : node.nearestLeaves = []) :
    Decides node.Unplanned (fun _ => node.Planned) ((Compiler.mk s {}).question node) := by
  have said := expressible_of_none none
  unfold question
  rw [nearestClause?_of_none none]
  refine ((conditionText_decides made).because fun e why => ?_).map fun _ clear => ?_
  · cases why with
    | query hn broken => exact .query fun h => broken (said.1 h _ hn)
    | overlong hn long => exact .overlong fun h => long (h _ hn)
  · exact ⟨said.2 fun n hn => (clear n hn).plain, fun n hn => (clear n hn).writable⟩

/-- With the neighbours asked for on top, the rest of the tree and the distance column decide. -/
theorem question_decides_onTop {node l : Condition} (made : node.MadeOf (Sound s))
    (once : node.nearestLeaves = [l]) (top : node.nearestOnTop = true) :
    Decides node.Unplanned (fun _ => node.Planned) ((Compiler.mk s {}).question node) := by
  have mem : l ∈ node.nearestLeaves := by simp [once]
  have near := isNearest_of_mem_nearestLeaves mem
  have said := expressible_of_onTop near once top
  have written := forall_writable_of_onTop near once top
  have built : l.Built s := by
    rcases made l (List.mem_filter.1 mem).1 with group | sound
    · obtain ⟨target, k, vector, scoreAlias, rfl⟩ := isNearest_eq_true near
      cases group
    · exact sound.1
  obtain ⟨others, place, apart⟩ := around_of_onTop once top
  have rest : node.withoutNearest.MadeOf (Sound s) :=
    madeOf_withoutNearest near place apart (made.mono fun _ _ sound => .inr sound)
  obtain ⟨clause, found, few, alike⟩ := nearestClause?_of_built built near once top
  obtain ⟨shown, counted⟩ := (Value.display_decides clause.k).exists_ok fun e why => by
    rw [few] at why
    cases why.2
  obtain ⟨column, named, same⟩ := scoreColumn_default (s := s) clause
  have unfiltered : ∀ e, node.withoutNearest.Unwritten e → node.Unplanned e := by
    intro e why
    cases why with
    | query hn broken => exact .query fun h => broken (said.1 h _ hn)
    | overlong hn long => exact .overlong fun h => long ((written.1 h).2 _ hn)
  have unnamed : ∀ e, e = .misuse .badValue ∧ column.isWritable = false → node.Unplanned e := by
    rintro e ⟨rfl, long⟩
    refine .overlong fun h => ?_
    rw [same, alike.1 (written.1 h).1] at long
    cases long
  unfold question
  rw [found, ok_bind]
  refine ((conditionText_decides rest).because unfiltered).bind fun _ clear => ?_
  rw [named, counted.1]
  refine ((Value.display_decides column).because unnamed).map fun _ shown =>
    ⟨said.2 fun n hn => (clear n hn).plain, written.2 ⟨?_, ?_⟩⟩
  · exact alike.2 (same ▸ shown.1)
  · exact fun n hn => (clear n hn).writable

/-- Under the default settings, a tree of sound leaves makes a question just when it can be said and
written. -/
theorem question_decides {node : Condition} (made : node.MadeOf (Sound s)) :
    Decides node.Unplanned (fun _ => node.Planned) ((Compiler.mk s {}).question node) := by
  match leaves : node.nearestLeaves with
  | [] => exact question_decides_plain made leaves
  | [l] =>
    cases top : node.nearestOnTop with
    | true => exact question_decides_onTop made leaves top
    | false =>
      have mem : l ∈ node.nearestLeaves := by simp [leaves]
      have near := isNearest_of_mem_nearestLeaves mem
      unfold question
      rw [nearestClause?_of_deep near leaves top]
      refine .refused (.query fun h => ?_)
      have placed := (nearestOnTop_iff near leaves).2 (h.onTop l mem)
      rw [top] at placed
      cases placed
  | first :: second :: rest =>
    unfold question
    rw [nearestClause?_of_several (by simp [leaves])]
    refine .refused (.query fun h => ?_)
    have once := h.once
    simp [leaves] at once

theorem compile_of_question {node : Condition} {settings : Settings} {q : Question}
    (asked : (Compiler.mk s settings).question node = .ok q) :
    ∃ plan, (Compiler.mk s settings).compile node {} = .ok plan := by
  unfold compile
  rw [asked]
  exact ⟨_, rfl⟩

/-- Under the default settings and options, a tree of sound leaves fails only for what its question
fails for. -/
theorem compile_decides_default {node : Condition} (made : node.MadeOf (Sound s)) :
    Decides node.Unplanned (fun _ => node.Planned) ((Compiler.mk s {}).compile node {}) := by
  cases asked : (Compiler.mk s {}).question node with
  | ok q =>
    obtain ⟨plan, compiled⟩ := compile_of_question asked
    rw [compiled]
    exact .ok ((question_decides made).of_ok asked)
  | error e =>
    unfold compile
    rw [asked, error_bind]
    exact .refused ((question_decides made).of_error asked)

/-- A tree that can be said but holds a number that is too long fails as no fault of the query. -/
theorem compile_of_overlong {node : Condition} (made : node.MadeOf (Sound s))
    (said : node.Expressible) (long : ¬ ∀ n ∈ node.walk, n.Writable) :
    (Compiler.mk s {}).compile node {} = .error (.misuse .badValue) := by
  cases compiled : (Compiler.mk s {}).compile node {} with
  | ok plan => exact absurd ((compile_decides_default made).of_ok compiled).writable long
  | error e =>
    cases (compile_decides_default made).of_error compiled with
    | query inexpressible => exact absurd said inexpressible
    | overlong => rfl

theorem expressible_leaf (target : Target) (p : Predicate) : (leaf target p).Expressible := by
  refine ⟨by simp [Proper], ?_, ?_⟩
  · exact List.length_filter_le ..
  · intro l hl
    have same : l = leaf target p := by simpa using (List.mem_filter.1 hl).1
    exact .inl same.symm

/-- Under the default settings and options, a tree of sound leaves has a plan just when it can be
said in the query language and all its numbers and its alias can be written. Every other tree is
refused: one that cannot be said as the fault of the query, one that holds too long a number by an
error without wording, and only these are refused so. -/
theorem compile_iff_expressible {node : Condition} (made : node.MadeOf (Sound s)) :
    ((∃ plan, (Compiler.mk s {}).compile node {} = .ok plan)
        ↔ node.Expressible ∧ ∀ n ∈ node.walk, n.Writable)
      ∧ ∀ e, (Compiler.mk s {}).compile node {} = .error e →
        (¬ node.Expressible ∧ ∃ fault, e = .query fault)
          ∨ (¬ (∀ n ∈ node.walk, n.Writable) ∧ e = .misuse .badValue) := by
  have decided := compile_decides_default made
  refine ⟨⟨?_, fun h => ?_⟩, fun e failed => ?_⟩
  · rintro ⟨plan, compiled⟩
    have planned := decided.of_ok compiled
    exact ⟨planned.expressible, planned.writable⟩
  · obtain ⟨plan, compiled, _⟩ := decided.exists_ok fun e why => why.not_planned ⟨h.1, h.2⟩
    exact ⟨plan, compiled⟩
  · cases decided.of_error failed with
    | query why => exact .inl ⟨why, _, rfl⟩
    | overlong why => exact .inr ⟨why, rfl⟩

/-- Hats that look alike have a plan, and so the tree can be said; nothing at all cannot be
negated. -/
theorem compile_iff_expressible_hats :
    (∃ node : Condition, node.MadeOf (Sound Products.schema) ∧ node.nearestLeaves ≠ []
        ∧ node.Expressible)
      ∧ ∃ node : Condition, node.MadeOf (Sound Products.schema) ∧ ¬ node.Expressible
        ∧ (Compiler.mk Products.schema {}).compile node {} = .error (.query .emptyNegation) := by
  have hat : Sound Products.schema Products.isHat :=
    ⟨Products.isHat_built, by simp [Products.isHat, numbers, Predicate.numbers, Value.isMissing]⟩
  have alike : Sound Products.schema (Products.looksAlike .null) :=
    ⟨Products.looksAlike_built .null, by simp [Products.looksAlike, numbers, Predicate.numbers]⟩
  constructor
  · have made : (all [Products.isHat, Products.looksAlike .null]).MadeOf
        (Sound Products.schema) := by
      rw [madeOf_all]
      simp only [List.mem_cons, List.not_mem_nil, or_false, forall_eq_or_imp, forall_eq]
      exact ⟨madeOf_leaf.2 hat, madeOf_leaf.2 alike⟩
    have planned : ∃ plan, (Compiler.mk Products.schema {}).compile
        (all [Products.isHat, Products.looksAlike .null]) {} = .ok plan := ⟨_, rfl⟩
    refine ⟨_, made, ?_, ((compile_iff_expressible made).1.1 planned).1⟩
    rw [nearestLeaves_all]
    exact List.cons_ne_nil _ _
  · have made : (negation (all [])).MadeOf (Sound Products.schema) := by
      rw [madeOf_negation, madeOf_all]
      simp
    have failed : (Compiler.mk Products.schema {}).compile (negation (all [])) {}
        = .error (.query .emptyNegation) := rfl
    refine ⟨_, made, ?_, failed⟩
    rcases (compile_iff_expressible made).2 _ failed with said | long
    · exact said.1
    · cases long.2

end Compiler

/-! ## A price that cannot be written -/

namespace Products

open Condition

theorem costs_sound (n : Int) : (costs n).MadeOf (Sound priced) :=
  madeOf_leaf.2 ⟨costs_built n, List.forall_mem_singleton.2 rfl⟩

theorem compile_costs_overlong {n : Int} (long : isShort n = false) :
    (Compiler.mk priced {}).compile (costs n) {} = .error (.misuse .badValue) := by
  refine Compiler.compile_of_overlong (costs_sound n) (Compiler.expressible_leaf _ _) fun writable => ?_
  have short := writable (costs n) List.mem_cons_self (.int n) List.mem_cons_self
  rw [Value.isWritable_int, long] at short
  cases short

end Products

/-- A price of more digits than can be written is taken by its builder and can be said, but has no
plan, and that is not called a fault of the query. -/
theorem Compiler.costs_beyond_writing :
    (Products.costs integerBound).MadeOf (Condition.Sound Products.priced)
      ∧ (Products.costs integerBound).Expressible
      ∧ (Compiler.mk Products.priced {}).compile (Products.costs integerBound) {}
        = .error (.misuse .badValue) :=
  ⟨Products.costs_sound integerBound, expressible_leaf _ _,
    Products.compile_costs_overlong isShort_integerBound⟩

end TypedQuery
