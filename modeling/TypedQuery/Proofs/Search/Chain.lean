import TypedQuery.Proofs.Condition.Built
import TypedQuery.Proofs.Query.Canonical
import TypedQuery.Search.Basic

/-! # Chains of steps

A chain of steps means its left fold. Every step reads as a link, by itself and before anything is
joined; the links are then folded from left to right with the operators. A fold in one set of
connectives carries over to another, so that the tree of a chain holds just when the fold of the
truth values of its steps does. -/

namespace TypedQuery
set_option autoImplicit false

variable {α β : Type}

/-! ## Folding links -/

/-- What the parts of a chain are joined with, and what a condition of a field counts for. -/
structure Connectives (α : Type) where
  leaf : Condition → α
  not : α → α
  and : α → α → α
  or : α → α → α

namespace Connectives

def join (c : Connectives α) : Join → α → α → α
  | .and => c.and
  | .or => c.or

def negated (c : Connectives α) (count : Nat) (a : α) : α := if count % 2 = 1 then c.not a else a

/-- The operators on trees. -/
def trees : Connectives Condition := ⟨id, Condition.not, Condition.and, Condition.or⟩

/-- The truth values of trees, given which predicates hold. -/
def truths (truth : Target → Predicate → Bool) : Connectives Bool :=
  ⟨Condition.holds truth, (!·), (· && ·), (· || ·)⟩

/-- The function respects the connectives. -/
structure Respects (c : Connectives α) (d : Connectives β) (h : α → β) : Prop where
  leaf : ∀ l, h (c.leaf l) = d.leaf l
  not : ∀ a, h (c.not a) = d.not (h a)
  and : ∀ a b, h (c.and a b) = d.and (h a) (h b)
  or : ∀ a b, h (c.or a b) = d.or (h a) (h b)

end Connectives

/-- What a step adds to a search: a condition under negations, a group, or something that stands
beside the tree. -/
inductive Link
  | condition (join : Join) (negations : Nat) (leaf : Condition)
  | group (join : Join) (links : List Link)
  | nearest (leaf : Condition)
  | sort (column : Value) (direction : Direction)

namespace Link

mutual

/-- A link joined to what stands before it. The first part is taken as it is, and a group without
parts changes nothing. -/
def onto (c : Connectives α) (before : Option α) : Link → Option α
  | .condition join negations leaf =>
    before.merge (c.join join) (some (c.negated negations (c.leaf leaf)))
  | .group join links => before.merge (c.join join) (fold c none links)
  | .nearest _ => before
  | .sort .. => before

def fold (c : Connectives α) (before : Option α) : List Link → Option α
  | [] => before
  | link :: rest => fold c (onto c before link) rest

end

theorem fold_eq_foldl (c : Connectives α) (before : Option α) (links : List Link) :
    fold c before links = links.foldl (onto c) before := by
  induction links generalizing before with
  | nil => rfl
  | cons link rest ih => rw [fold, ih, List.foldl_cons]

def nearest? : Link → Option Condition
  | .nearest leaf => some leaf
  | _ => none

def sort? : Link → Option (Value × Direction)
  | .sort column direction => some (column, direction)
  | _ => none

/-! ## Folds in two sets of connectives -/

variable {c : Connectives α} {d : Connectives β} {h : α → β}

theorem map_negated (respects : c.Respects d h) (count : Nat) (a : α) :
    h (c.negated count a) = d.negated count (h a) := by
  unfold Connectives.negated
  split
  · exact respects.not a
  · rfl

theorem map_merge (respects : c.Respects d h) (join : Join) (before part : Option α) :
    (before.merge (c.join join) part).map h = (before.map h).merge (d.join join) (part.map h) := by
  cases before with
  | none => cases part <;> rfl
  | some a =>
    cases part with
    | none => rfl
    | some b =>
      cases join with
      | and => exact congrArg some (respects.and a b)
      | or => exact congrArg some (respects.or a b)

mutual

theorem map_onto (respects : c.Respects d h) (before : Option α) :
    ∀ link, (onto c before link).map h = onto d (before.map h) link
  | .condition join negations leaf => by
    rw [onto, onto, map_merge respects, Option.map_some, map_negated respects, respects.leaf]
  | .group join links => by
    rw [onto, onto, map_merge respects, map_fold respects none links]
    rfl
  | .nearest _ => by rw [onto, onto]
  | .sort .. => by rw [onto, onto]

theorem map_fold (respects : c.Respects d h) (before : Option α) :
    ∀ links, (fold c before links).map h = fold d (before.map h) links
  | [] => by rw [fold, fold]
  | link :: rest => by
    rw [fold, fold, map_fold respects (onto c before link) rest, map_onto respects before link]

end

end Link

/-! ## Truth of joined trees -/

namespace Condition

variable (truth : Target → Predicate → Bool)

theorem holds_and (left right : Condition) :
    (left.and right).holds truth = (left.holds truth && right.holds truth) := by
  cases left with
  | all children => simp [Condition.and, holds_all]
  | _ => simp [Condition.and, holds_all]

theorem holds_or (left right : Condition) :
    (left.or right).holds truth = (left.holds truth || right.holds truth) := by
  cases left with
  | any children => simp [Condition.or, holds_any]
  | _ => simp [Condition.or, holds_any]

theorem holds_respects : Connectives.trees.Respects (.truths truth) (holds truth) where
  leaf _ := rfl
  not child := by
    change holds truth (.negation child) = !holds truth child
    rw [holds]
  and := holds_and truth
  or := holds_or truth

end Condition

/-! ## Reading steps -/

/-- What a name, or a field that is given, stands for in a schema. -/
inductive Target.StandsFor (schema : Schema) : Target → Target → Prop
  | field {f : Field} {origin : Origin} : StandsFor schema (.field f origin) (.field f origin)
  | name {v : Value} {f : Field} : schema.get v = .ok f →
    StandsFor schema (.other v) (.field f .schema)

/-- A step reads as a link: its own calls succeed, and a group holds no nearest neighbours. -/
inductive Step.Reads (schema : Schema) : Step → Link → Prop
  | field {join : Join} {target field : Target} {negations : Nat} {method : String}
      {arguments : List Value} {call : FieldCall} {leaf : Condition} :
    target.StandsFor schema field → FieldCall.ofMethod method arguments = .ok call →
    call.condition field = .ok leaf →
    Reads schema (.field join target negations method arguments) (.condition join negations leaf)
  | group {join : Join} {steps : List Step} {links : List Link} :
    List.Forall₂ (Reads schema) steps links → (∀ link ∈ links, link.nearest? = none) →
    Reads schema (.group join (some steps)) (.group join links)
  | nearest {target field : Target} {k vector scoreAlias : Value} {leaf : Condition} :
    target.StandsFor schema field → Condition.nearest field k vector scoreAlias = .ok leaf →
    Reads schema (.nearest target k vector scoreAlias) (.nearest leaf)
  | sort {column label : Value} {direction : Direction} :
    Search.directionOf label = .ok direction →
    Reads schema (.sortBy column label) (.sort column direction)

namespace Search

variable {s s' : Search}

/-- A search with a link joined to it. -/
def add (s : Search) (link : Link) : Search :=
  { s with
    node := link.onto .trees s.node
    nearest := link.nearest?.or s.nearest
    sort := link.sort?.or s.sort }

theorem resolve_eq_ok {target field : Target} :
    s.resolve target = .ok field ↔ target.StandsFor s.schema field := by
  cases target with
  | field f origin =>
    constructor
    · intro h
      cases h
      exact .field
    · intro h
      cases h
      rfl
  | other v =>
    rw [resolve, bind_eq_ok]
    constructor
    · rintro ⟨f, found, e⟩
      cases e
      exact .name found
    · intro h
      cases h with
      | name found => exact ⟨_, found, rfl⟩

theorem joinNode_eq (s : Search) (join : Join) (node : Condition) :
    s.joinNode join node = { s with node := s.node.merge (Connectives.trees.join join) node } := by
  unfold joinNode
  cases s.node with
  | none => rfl
  | some current => cases join <;> rfl

/-! ## Chains of links -/

theorem node_foldl (s : Search) (links : List Link) :
    (links.foldl add s).node = Link.fold .trees s.node links := by
  induction links generalizing s with
  | nil => rfl
  | cons link rest ih => rw [List.foldl_cons, ih, Link.fold, add]

/-- Of the nearest-neighbour predicates, the last one counts. -/
theorem nearest_foldl (s : Search) (links : List Link) :
    (links.foldl add s).nearest = (links.filterMap Link.nearest?).getLast?.or s.nearest := by
  induction links generalizing s with
  | nil => rfl
  | cons link rest ih =>
    rw [List.foldl_cons, ih, add, List.filterMap_cons]
    cases link.nearest? with
    | none => rfl
    | some leaf => rw [List.getLast?_cons, Option.some_or, Option.or_some, Option.some_or]

theorem joinGroup_eq_ok {join : Join} {links : List Link} {schema : Schema} {settings : Settings} :
    s.joinGroup join (links.foldl add (start schema settings)) = .ok s'
      ↔ (∀ link ∈ links, link.nearest? = none) ∧ s' = s.add (.group join links) := by
  have plain : (links.foldl add (start schema settings)).nearest.isSome = false
      ↔ ∀ link ∈ links, link.nearest? = none := by
    simp [nearest_foldl, start]
  have bare : (start schema settings).node = none := rfl
  have joined : s.add (.group join links) = { s with
      node := s.node.merge (Connectives.trees.join join) (Link.fold .trees none links) } := rfl
  rw [joinGroup, node_foldl, bare, joined]
  cases found : (links.foldl add (start schema settings)).nearest.isSome with
  | true =>
    rw [found] at plain
    simp [← plain]
  | false =>
    rw [and_iff_right (plain.1 found), if_neg Bool.false_ne_true]
    cases Link.fold .trees none links with
    | none =>
      have kept : s.node.merge (Connectives.trees.join join) none = s.node := by
        cases s.node <;> rfl
      rw [kept, Except.ok.injEq, eq_comm]
    | some node => simp [joinNode_eq, eq_comm]

/-! ## Chains of steps -/

mutual

/-- A step changes a search by its link. -/
theorem apply_eq_ok (s s' : Search) : ∀ step,
    s.apply step = .ok s' ↔ ∃ link, step.Reads s.schema link ∧ s' = s.add link
  | .field join target negations method arguments => by
    rw [apply]
    simp only [bind_eq_ok, resolve_eq_ok]
    constructor
    · rintro ⟨field, stands, call, named, leaf, built, e⟩
      cases e
      exact ⟨_, .field stands named built, joinNode_eq ..⟩
    · rintro ⟨_, reads, rfl⟩
      cases reads with
      | field stands named built =>
        exact ⟨_, stands, _, named, _, built, congrArg Except.ok (joinNode_eq ..)⟩
  | .group join none => by
    rw [apply]
    constructor
    · intro h
      cases h
    · rintro ⟨_, reads, _⟩
      cases reads
  | .group join (some steps) => by
    rw [apply, bind_eq_ok]
    simp only [applyAll_eq_ok]
    constructor
    · rintro ⟨_, ⟨links, reads, rfl⟩, h⟩
      obtain ⟨plain, e⟩ := joinGroup_eq_ok.1 h
      exact ⟨_, .group reads plain, e⟩
    · rintro ⟨_, reads, e⟩
      cases reads with
      | group reads plain => exact ⟨_, ⟨_, reads, rfl⟩, joinGroup_eq_ok.2 ⟨plain, e⟩⟩
  | .nearest target k vector scoreAlias => by
    rw [apply]
    simp only [bind_eq_ok, resolve_eq_ok]
    constructor
    · rintro ⟨field, stands, leaf, built, e⟩
      cases e
      exact ⟨_, .nearest stands built, rfl⟩
    · rintro ⟨_, reads, rfl⟩
      cases reads with
      | nearest stands built => exact ⟨_, stands, _, built, rfl⟩
  | .sortBy column label => by
    rw [apply, bind_eq_ok]
    constructor
    · rintro ⟨direction, known, e⟩
      cases e
      exact ⟨_, .sort known, rfl⟩
    · rintro ⟨_, reads, rfl⟩
      cases reads with
      | sort known => exact ⟨_, known, rfl⟩

/-- A chain of steps succeeds just when every step reads, and then adds their links in turn. -/
theorem applyAll_eq_ok (s s' : Search) : ∀ steps, s.applyAll steps = .ok s'
    ↔ ∃ links, List.Forall₂ (Step.Reads s.schema) steps links ∧ s' = links.foldl add s
  | [] => by
    rw [applyAll]
    simp [eq_comm]
  | step :: rest => by
    rw [applyAll, bind_eq_ok]
    simp only [apply_eq_ok]
    constructor
    · rintro ⟨_, ⟨link, reads, rfl⟩, h⟩
      obtain ⟨links, others, e⟩ := (applyAll_eq_ok _ s' rest).1 h
      exact ⟨link :: links, .cons reads others, e⟩
    · rintro ⟨_, reads, e⟩
      cases reads with
      | cons first others =>
        exact ⟨_, ⟨_, first, rfl⟩, (applyAll_eq_ok _ s' rest).2 ⟨_, others, e⟩⟩

end

end Search

/-! ## Chains over products -/

namespace Products

def hatStep (join : Join) (negations : Nat) : Step :=
  .field join (.other (.text "kind")) negations "eq" [.text "hat"]

theorem hatStep_reads (join : Join) (negations : Nat) :
    (hatStep join negations).Reads schema (.condition join negations isHat) :=
  .field (.name (f := kind) rfl) rfl rfl

def alikeStep (scoreAlias : Value) : Step :=
  .nearest (.other (.text "image")) (.int 3) (.bytes ⟨#[0, 0, 0, 0]⟩) scoreAlias

theorem alikeStep_reads (scoreAlias : Value) :
    (alikeStep scoreAlias).Reads schema (.nearest (looksAlike scoreAlias)) :=
  .nearest (.name (f := image) rfl) rfl

def costsStep (n : Int) : Step := .field .and (.other (.text "price")) 0 "eq" [.int n]

end Products

/-! ## The meaning of a chain -/

namespace Search

/-- A chain of steps succeeds just when each of its steps does by itself. Its tree is then the left
fold of the steps with the operators, and holds just when the left fold of their truth values
does. -/
theorem applyAll_leftFold (s : Search) (steps : List Step) :
    ((∃ s', s.applyAll steps = .ok s')
        ↔ ∃ links, List.Forall₂ (Step.Reads s.schema) steps links)
      ∧ ∀ links, List.Forall₂ (Step.Reads s.schema) steps links →
        ∃ s', s.applyAll steps = .ok s'
          ∧ s'.node = links.foldl (Link.onto .trees) s.node
          ∧ ∀ truth, s'.node.map (Condition.holds truth)
            = links.foldl (Link.onto (.truths truth)) (s.node.map (Condition.holds truth)) := by
  constructor
  · simp only [applyAll_eq_ok]
    exact ⟨fun ⟨_, links, reads, _⟩ => ⟨links, reads⟩, fun ⟨links, reads⟩ => ⟨_, links, reads, rfl⟩⟩
  · intro links reads
    refine ⟨links.foldl add s, (applyAll_eq_ok ..).2 ⟨links, reads, rfl⟩, ?_, fun truth => ?_⟩
    · rw [node_foldl, Link.fold_eq_foldl]
    · rw [node_foldl, Link.map_fold (Condition.holds_respects truth), Link.fold_eq_foldl]

/-- The first operator is ignored, two negations are none, and a conjunction is continued behind the
group and the neighbours. -/
theorem applyAll_leftFold_hats :
    ∃ s', (Search.start Products.schema {}).applyAll [Products.hatStep .or 3,
        .group .and (some [.group .or (some []), Products.hatStep .and 2, Products.hatStep .or 0]),
        Products.alikeStep .null, Products.hatStep .and 1] = .ok s'
      ∧ s'.node = some (.all [.negation Products.isHat, .any [Products.isHat, Products.isHat],
        .negation Products.isHat])
      ∧ ∀ truth, s'.node.map (Condition.holds truth) = some (!Products.isHat.holds truth
        && (Products.isHat.holds truth || Products.isHat.holds truth)
        && !Products.isHat.holds truth) := by
  have group : (Step.group .and (some [.group .or (some []), Products.hatStep .and 2,
      Products.hatStep .or 0])).Reads Products.schema (.group .and [.group .or [],
        .condition .and 2 Products.isHat, .condition .or 0 Products.isHat]) := by
    refine .group (.cons (.group .nil (by simp)) (.cons ?_ (.cons ?_ .nil))) (by simp [Link.nearest?])
    · exact Products.hatStep_reads .and 2
    · exact Products.hatStep_reads .or 0
  exact (applyAll_leftFold (Search.start Products.schema {}) _).2 _
    (.cons (Products.hatStep_reads .or 3) (.cons group (.cons (Products.alikeStep_reads .null)
      (.cons (Products.hatStep_reads .and 1) .nil))))

end Search

end TypedQuery
