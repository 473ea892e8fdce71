import TypedQuery.Proofs.Query.EmissionReading
import TypedQuery.Proofs.Query.NearestOnTop
import TypedQuery.Proofs.Schema.Lookup

/-! # When a tree is written

A tree of built leaves is written just when every choice in it has members that all ask something,
no negation is of a tree that asks nothing, no nearest neighbours are asked for, and no number is too
long. Otherwise the query is at fault, whichever node is met first, or a number cannot be written. -/

namespace TypedQuery
set_option autoImplicit false

/-! ## Numbers -/

def Value.isMissing : Value → Bool
  | .double x => x.isNotANumber
  | _ => false

def Predicate.numbers : Predicate → List Value
  | .equals v => [v]
  | .range lower upper _ _ => [lower, upper]
  | .within longitude latitude radius _ => [longitude, latitude, radius]
  | _ => []

def Condition.numbers : Condition → List Value
  | .leaf _ p => p.numbers
  | _ => []

/-- A built leaf without a missing number. -/
def Condition.Sound (s : Schema) (l : Condition) : Prop :=
  l.Built s ∧ ∀ v ∈ l.numbers, v.isMissing = false

/-- The values that a leaf puts into a query: its numbers, or the name of its distance column. -/
def Predicate.spelled : Predicate → List Value
  | .nearest _ _ scoreAlias => [scoreAlias]
  | p => p.numbers

def Condition.spelled : Condition → List Value
  | .leaf _ p => p.spelled
  | _ => []

/-- What the node puts into a query can be written. -/
def Condition.Writable (n : Condition) : Prop := ∀ v ∈ n.spelled, v.isWritable = true

theorem Condition.not_writable {n : Condition} {v : Value} (spelled : v ∈ n.spelled)
    (long : v.isWritable = false) : ¬ n.Writable :=
  fun writable => Bool.false_ne_true (long.symm.trans (writable v spelled))

/-- A leaf that asks for no neighbours puts its numbers into the query. -/
theorem Condition.spelled_of_plain {target : Target} {p : Predicate}
    (plain : (leaf target p).isNearest = false) : (leaf target p).spelled = p.numbers := by
  cases p with
  | nearest => cases plain
  | _ => rfl

/-- A number that can stand in a query. -/
structure Value.Said (v : Value) : Prop where
  present : v.isMissing = false
  writable : v.isWritable = true

/-- Why a number cannot stand in a query: it is missing, or has too many digits. -/
inductive Value.Unsaid (v : Value) : Error → Prop
  | missing : v.isMissing = true → Unsaid v (.query .missingNumber)
  | overlong : v.isWritable = false → Unsaid v (.misuse .badValue)

theorem queryNumber_decides (n : Numeral) :
    Decides (Value.ofNumeral n).Unsaid (fun _ => (Value.ofNumeral n).Said)
      (Value.ofNumeral n).queryNumber := by
  cases n with
  | int n =>
    exact (Value.display_decides (.int n)).mono (fun _ why => why.1 ▸ .overlong why.2)
      fun _ shown => ⟨rfl, shown.1⟩
  | double x =>
    simp only [Value.ofNumeral, Value.queryNumber, Value.number?, Numeral.queryText]
    split
    · rename_i missing
      exact .refused (.missing (by simp [Value.isMissing, Double.isNotANumber, missing]))
    · rename_i infinite
      exact .ok ⟨by simp [Value.isMissing, Double.isNotANumber, infinite], rfl⟩
    · rename_i finite
      exact .ok ⟨by simp [Value.isMissing, Double.isNotANumber, finite], rfl⟩

theorem boundText_decides (infinity : String) (n : Option Numeral) (inclusive : Value) :
    Decides (Condition.boundValue n).Unsaid (fun _ => (Condition.boundValue n).Said)
      (boundText infinity (Condition.boundValue n) inclusive) := by
  cases n with
  | none => exact .ok ⟨rfl, rfl⟩
  | some n =>
    have step : boundText infinity (Condition.boundValue (some n)) inclusive = (do
        let text ← (Value.ofNumeral n).queryNumber
        return if inclusive.truthy then text else "(" ++ text) := by
      cases n <;> rfl
    rw [step]
    exact (queryNumber_decides n).map fun _ said => said

/-! ## Leaves -/

variable {s : Schema}

/-- The clause of a well-made predicate that asks for no neighbours is written unless one of its
numbers cannot be. -/
theorem clause_decides {f : Field} {p : Predicate} (made : p.WellMade f) {target : Target}
    (plain : (Condition.leaf target p).isNearest = false) :
    Decides (fun e => ∃ v ∈ p.numbers, v.Unsaid e) (fun _ => ∀ v ∈ p.numbers, v.Said)
      (p.clause s f) := by
  cases made with
  | @truth b type_eq =>
    simp only [Predicate.clause, type_eq]
    exact .ok (List.forall_mem_singleton.2 ⟨rfl, by cases b <;> rfl⟩)
  | @number n type_eq =>
    have written : (Predicate.equals (.ofNumeral n)).clause s f = (do
        let text ← (Value.ofNumeral n).queryNumber
        return inBrackets (text ++ " " ++ text)) := by
      rcases type_eq with e | e <;> simp only [Predicate.clause, e]
    have among : ∀ e, (Value.ofNumeral n).Unsaid e →
        ∃ v ∈ (Predicate.equals (.ofNumeral n)).numbers, v.Unsaid e :=
      fun e why => ⟨_, List.mem_singleton_self _, why⟩
    rw [written]
    exact ((queryNumber_decides n).because among).map fun _ said => List.forall_mem_singleton.2 said
  | tag type_eq =>
    simp only [Predicate.clause, type_eq, Value.asText]
    exact .ok (List.forall_mem_singleton.2 ⟨rfl, rfl⟩)
  | phrase type_eq =>
    simp only [Predicate.clause, type_eq, Value.asText]
    exact .ok (List.forall_mem_singleton.2 ⟨rfl, rfl⟩)
  | @range lower upper lowerInclusive upperInclusive =>
    have low := boundText_decides "-inf" lower lowerInclusive
    have high := boundText_decides "+inf" upper upperInclusive
    refine (low.because fun e why => ⟨_, List.mem_cons_self .., why⟩).bind fun _ first => ?_
    refine (high.because fun e why => ⟨_, by simp [Predicate.numbers], why⟩).map fun _ second => ?_
    simp [Predicate.numbers, first, second]
  | contains =>
    rw [Predicate.clause, mapM_escapeTag]
    exact .ok (List.forall_mem_nil _)
  | terms => exact .ok (List.forall_mem_nil _)
  | @within x y r unit =>
    have each : ∀ v ∈ [Value.double x, .double y, .double r],
        Decides v.Unsaid (fun _ => v.Said) v.queryNumber := by
      simp only [List.mem_cons, List.not_mem_nil, or_false, forall_eq_or_imp, forall_eq]
      exact ⟨queryNumber_decides (.double x), queryNumber_decides (.double y),
        queryNumber_decides (.double r)⟩
    refine (decides_mapM each).map fun _ said v hv => ?_
    obtain ⟨_, _, said⟩ := exists_right_of_mem said hv
    exact said
  | nearest => simp [Condition.isNearest] at plain

theorem Predicate.WellMade.fits {f : Field} {p : Predicate} (made : p.WellMade f) :
    f.type ∈ p.fits := by
  cases made with
  | nearest params =>
    have kind : ∃ q, f.kind = .vector q := by
      unfold Field.vectorParams? at params
      split at params
      · exact ⟨_, by assumption⟩
      · cases params
    obtain ⟨q, hq⟩ := kind
    simp [Predicate.fits, Field.type, FieldKind.type, hq]
  | number type_eq => rcases type_eq with e | e <;> simp [Predicate.fits, e]
  | range type_eq => rcases type_eq with e | e <;> simp [Predicate.fits, e]
  | _ => simp [Predicate.fits, *]

namespace Schema

theorem checkDeclared_of_mem {f : Field} (h : f ∈ s.fields) :
    s.checkDeclared (.field f .schema) = .ok f := by
  have same : (Target.field f .schema).same (.field f .schema) = true := by
    simp [Target.same, Field.identical_self]
  simp [checkDeclared, byStoreName?_of_mem h, same]

theorem leafText_of_wellMade {f : Field} {p : Predicate} (declared : f ∈ s.fields)
    (made : p.WellMade f) (plain : (Condition.leaf (.field f .schema) p).isNearest = false) :
    s.leafText (.field f .schema) p = (do
      let clause ← p.clause s f
      return "@" ++ f.storeName.text ++ ":" ++ clause) := by
  have checked : s.checkLeaf (.field f .schema) p = .ok f := by
    simp [checkLeaf, checkDeclared_of_mem declared, made.fits]
  unfold leafText
  split
  · simp [Condition.isNearest] at plain
  · rw [checked, ok_bind]

end Schema

/-! ## Trees -/

namespace Condition

/-- A choice has members, and each of them asks something; what is negated asks something. -/
def Proper : Condition → Prop
  | .any children => children ≠ [] ∧ ∀ c ∈ children, c.isEmpty = false
  | .negation child => child.isEmpty = false
  | _ => True

def Plain (n : Condition) : Prop := n.Proper ∧ n.isNearest = false

/-- A node that is written as it stands. -/
structure Clear (n : Condition) : Prop where
  plain : n.Plain
  writable : n.Writable

/-- Why a tree is not written: a node is not plain, or holds what cannot be written. -/
inductive Unwritten (c : Condition) : Error → Prop
  | query {n : Condition} {fault : QueryFault} : n ∈ c.walk → ¬ n.Plain →
    Unwritten c (.query fault)
  | overlong {n : Condition} : n ∈ c.walk → ¬ n.Writable → Unwritten c (.misuse .badValue)

theorem Unwritten.inside {c d : Condition} {e : Error} (h : c.Unwritten e)
    (within : ∀ n ∈ c.walk, n ∈ d.walk) : d.Unwritten e := by
  cases h with
  | query hn why => exact .query (within _ hn) why
  | overlong hn why => exact .overlong (within _ hn) why

theorem clear_all (cs : List Condition) : Clear (.all cs) := ⟨⟨trivial, rfl⟩, List.forall_mem_nil _⟩

theorem clear_of_isEmpty {c : Condition} (h : c.isEmpty = true) : ∀ n ∈ c.walk, n.Clear := by
  intro n hn
  obtain ⟨cs, rfl, _⟩ := mem_walk_of_isEmpty h hn
  exact clear_all cs

theorem walk_subset_all {c : Condition} {cs : List Condition} (hc : c ∈ cs) :
    ∀ n ∈ c.walk, n ∈ (all cs).walk := by
  intro n hn
  rw [walk_all]
  exact List.mem_cons_of_mem _ (List.mem_flatMap.2 ⟨c, hc, hn⟩)

theorem walk_subset_any {c : Condition} {cs : List Condition} (hc : c ∈ cs) :
    ∀ n ∈ c.walk, n ∈ (any cs).walk := by
  intro n hn
  rw [walk_any]
  exact List.mem_cons_of_mem _ (List.mem_flatMap.2 ⟨c, hc, hn⟩)

theorem forall_clear_any {cs : List Condition} (proper : Proper (any cs))
    (each : ∀ c ∈ cs, ∀ n ∈ c.walk, n.Clear) : ∀ n ∈ (any cs).walk, n.Clear := by
  intro n hn
  rw [walk_any, List.mem_cons, List.mem_flatMap] at hn
  rcases hn with rfl | ⟨c, hc, hn⟩
  · exact ⟨⟨proper, rfl⟩, List.forall_mem_nil _⟩
  · exact each c hc n hn

end Condition

namespace Schema

open Condition

theorem sound_leaf (l : Condition) (h : l.Sound s) : ∃ target p, l = .leaf target p := by
  obtain ⟨f, p, _, e, _⟩ := h.1.wellMade
  exact ⟨_, _, e⟩

/-- A sound leaf is written, unless it asks for neighbours or holds a number that is too long. -/
theorem leafText_decides {target : Target} {p : Predicate} (sound : (leaf target p).Sound s) :
    Decides (leaf target p).Unwritten (fun _ => (leaf target p).Clear) (s.leafText target p) := by
  have own : leaf target p ∈ (leaf target p).walk := by
    rw [walk_leaf]
    exact List.mem_singleton_self _
  cases near : (leaf target p).isNearest with
  | true =>
    obtain ⟨_, k, vector, scoreAlias, e⟩ := isNearest_eq_true near
    cases e
    exact .refused (.query own fun plain => Bool.false_ne_true (plain.2.symm.trans near))
  | false =>
    obtain ⟨f, q, declared, e, made⟩ := sound.1.wellMade
    cases e
    have same := spelled_of_plain near
    have unwritten : ∀ e, (∃ v ∈ p.numbers, v.Unsaid e) →
        (leaf (.field f .schema) p).Unwritten e := by
      rintro e ⟨v, hv, why⟩
      cases why with
      | missing lost => exact absurd ((sound.2 v hv).symm.trans lost) Bool.false_ne_true
      | overlong long => exact .overlong own (not_writable (same ▸ hv) long)
    rw [leafText_of_wellMade declared made near]
    refine ((clause_decides made near).because unwritten).map fun _ said => ?_
    exact ⟨⟨trivial, near⟩, fun v hv => (said v (same ▸ hv)).writable⟩

/-- A tree of sound leaves is written just when all its nodes are clear. -/
theorem emit_decides {c : Condition} (made : c.MadeOf (Sound s)) (asks : c.isEmpty = false)
    (nested : Bool) : Decides c.Unwritten (fun _ => ∀ n ∈ c.walk, n.Clear) (s.emit nested c) := by
  induction c using Condition.induct generalizing nested with
  | leaf target p =>
    rw [emit]
    refine (leafText_decides (madeOf_leaf.1 made)).mono (fun _ why => why) fun _ clear => ?_
    rw [walk_leaf]
    exact List.forall_mem_singleton.2 clear
  | all cs ih =>
    have written : ∀ c ∈ cs.filter fun c => !c.isEmpty,
        Decides c.Unwritten (fun _ => ∀ n ∈ c.walk, n.Clear) (s.emit true c) := by
      intro c hc
      obtain ⟨hc, asking⟩ := List.mem_filter.1 hc
      exact ih c hc (madeOf_all.1 made c hc) (by simpa using asking) true
    have inside : ∀ e, (∃ c ∈ cs.filter fun c => !c.isEmpty, c.Unwritten e) →
        (all cs).Unwritten e := by
      rintro e ⟨c, hc, why⟩
      exact why.inside (walk_subset_all (List.mem_filter.1 hc).1)
    rw [emit_all]
    refine ((decides_mapM written).because inside).map fun _ clear => ?_
    refine (forall_mem_walk_all clear_all cs).2 fun d hd => ?_
    -- no offending node is lost among the children that are left out
    cases empty : d.isEmpty with
    | true => exact clear_of_isEmpty empty
    | false =>
      obtain ⟨_, _, clear⟩ := exists_right_of_mem clear (List.mem_filter.2 ⟨hd, by simp [empty]⟩)
      exact clear
  | any cs ih =>
    by_cases proper : Proper (any cs)
    · have inside : ∀ c ∈ cs, ∀ e, c.Unwritten e → (any cs).Unwritten e :=
        fun c hc e why => why.inside (walk_subset_any hc)
      rcases cs with _ | ⟨c, _ | ⟨second, rest⟩⟩
      · exact absurd rfl proper.1
      · have hc : c ∈ [c] := List.mem_singleton_self c
        rw [emit_any_one (proper.2 c hc)]
        refine (ih c hc (madeOf_any.1 made c hc) (proper.2 c hc) nested).mono (inside c hc) ?_
        exact fun _ clear => forall_clear_any proper (List.forall_mem_singleton.2 clear)
      · rw [emit_any_many proper.2]
        have each := decides_mapM fun c hc => ih c hc (madeOf_any.1 made c hc) (proper.2 c hc) true
        refine (each.because ?_).map fun _ clear => ?_
        · rintro e ⟨c, hc, why⟩
          exact inside c hc e why
        refine forall_clear_any proper fun c hc => ?_
        obtain ⟨_, _, clear⟩ := exists_right_of_mem clear hc
        exact clear
    · have own : any cs ∈ (any cs).walk := by
        rw [walk_any]
        exact List.mem_cons_self ..
      have broken {fault : QueryFault} : (any cs).Unwritten (.query fault) :=
        .query own fun plain => proper plain.1
      by_cases none : cs = []
      · rw [none] at broken ⊢
        rw [emit_any_nil]
        exact .refused broken
      · have found : ∃ c ∈ cs, c.isEmpty = true := by simpa [Proper, none] using proper
        rw [emit_any_of_empty found]
        exact .refused broken
  | negation c ih =>
    have own : negation c ∈ (negation c).walk := by
      rw [walk_negation]
      exact List.mem_cons_self ..
    have below : ∀ n ∈ c.walk, n ∈ (negation c).walk := by
      rw [walk_negation]
      exact fun n hn => List.mem_cons_of_mem _ hn
    rw [emit]
    cases empty : c.isEmpty with
    | true =>
      refine .refused (.query own fun plain => ?_)
      have asks : c.isEmpty = false := plain.1
      rw [empty] at asks
      cases asks
    | false =>
      have inner := (ih (madeOf_negation.1 made) empty false).because fun e why => why.inside below
      refine inner.map fun _ clear => ?_
      rw [walk_negation, List.forall_mem_cons]
      exact ⟨⟨⟨empty, rfl⟩, List.forall_mem_nil _⟩, clear⟩
  | blank =>
    rcases made.shape sound_leaf with e | ⟨_, _, e⟩ | e <;> cases e
  | foreign v =>
    rcases made.shape sound_leaf with e | ⟨_, _, e⟩ | e
    · rw [e, isEmpty_absent] at asks
      cases asks
    · cases e
    · cases e

/-- The query of a tree of sound leaves is written just when all nodes of the tree are clear. -/
theorem conditionText_decides {c : Condition} (made : c.MadeOf (Sound s)) :
    Decides c.Unwritten (fun _ => ∀ n ∈ c.walk, n.Clear) (s.conditionText c) := by
  unfold conditionText
  cases empty : c.isEmpty with
  | true => exact .ok (clear_of_isEmpty empty)
  | false => exact emit_decides made empty false

end Schema

end TypedQuery
