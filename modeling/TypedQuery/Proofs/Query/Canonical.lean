import TypedQuery.Proofs.Condition.Tree
import TypedQuery.Proofs.Query.Reader

/-! # What conditions mean

The canonical form of a tree, as a query: conditions that ask nothing are left out of conjunctions,
a group of one stands for its member, and a predicate becomes a clause. Predicates that ask the
same have the same clause: one value is a set of one tag, a phrase or the interval from the value to
itself, and an open bound is the infinity on its side. A tree and its canonical form hold for the
same assignments of truth values to leaves. -/

namespace TypedQuery
set_option autoImplicit false

/-! ## Canonical leaves -/

/-- A number as it is written in queries. What is no number is written by no characters. -/
def Value.token (v : Value) : String :=
  match v.queryNumber with
  | .ok t => t
  | .error _ => ""

/-- A value as it is displayed. What cannot be is displayed by no characters. -/
def Value.shown (v : Value) : String := v.display?.getD ""

/-- A bound of an interval; nothing is the infinity on its side, which belongs to the interval. -/
def canonicalBound (infinity : String) (bound inclusive : Value) : QueryBound :=
  match bound with
  | .null => ⟨true, infinity⟩
  | bound => ⟨inclusive.truthy, bound.token⟩

/-- The clause of a predicate on a field. Nearest neighbours have none, and stand for no tags. -/
def Predicate.canonical (s : Schema) (f : Field) : Predicate → Clause
  | .equals v =>
    match f.type with
    | .tag => .tags [v.shown]
    | .text => .phrase v.shown
    | .boolean => .tags [s.truthWord v.truthy]
    | _ => .interval ⟨true, v.token⟩ ⟨true, v.token⟩
  | .range lower upper lowerInclusive upperInclusive =>
    .interval (canonicalBound "-inf" lower lowerInclusive)
      (canonicalBound "+inf" upper upperInclusive)
  | .contains values => .tags (values.map Value.shown)
  | .terms pattern exact => if exact.truthy then .phrase pattern.shown else .words pattern.shown
  | .within longitude latitude radius unit =>
    .circle longitude.token latitude.token radius.token unit.shown
  | .nearest .. => .tags []

def canonicalLeaf (s : Schema) (target : Target) (p : Predicate) : Leaf :=
  match target with
  | .field f _ => ⟨f.storeName.text, p.canonical s f⟩
  | .other _ => ⟨"", .tags []⟩

/-! ## Canonical trees -/

namespace Condition

mutual

def canonical (s : Schema) : Condition → Query
  | .leaf target p => .leaf (canonicalLeaf s target p)
  | .all children => .grouped .all (canonicalAsking s children)
  | .any children => .grouped .any (canonicalEach s children)
  | .negation child => .negation (canonical s child)
  | .blank => .all []
  | .foreign _ => .all []

def canonicalAsking (s : Schema) : List Condition → List Query
  | [] => []
  | c :: rest =>
    if c.isEmpty then canonicalAsking s rest else canonical s c :: canonicalAsking s rest

def canonicalEach (s : Schema) : List Condition → List Query
  | [] => []
  | c :: rest => canonical s c :: canonicalEach s rest

end

end Condition

/-! ## Truth -/

namespace Query

mutual

def holds (truth : Leaf → Bool) : Query → Bool
  | .leaf l => truth l
  | .all members => allHold truth members
  | .any members => anyHolds truth members
  | .negation member => !holds truth member

def allHold (truth : Leaf → Bool) : List Query → Bool
  | [] => true
  | q :: rest => holds truth q && allHold truth rest

def anyHolds (truth : Leaf → Bool) : List Query → Bool
  | [] => false
  | q :: rest => holds truth q || anyHolds truth rest

end

end Query

namespace Condition

mutual

/-- Does a tree hold, given which predicates do? Nothing at all is met by every record. -/
def holds (truth : Target → Predicate → Bool) : Condition → Bool
  | .leaf target p => truth target p
  | .all children => allHold truth children
  | .any children => anyHolds truth children
  | .negation child => !holds truth child
  | .blank => true
  | .foreign _ => true

def allHold (truth : Target → Predicate → Bool) : List Condition → Bool
  | [] => true
  | c :: rest => holds truth c && allHold truth rest

def anyHolds (truth : Target → Predicate → Bool) : List Condition → Bool
  | [] => false
  | c :: rest => holds truth c || anyHolds truth rest

end

variable (truth : Target → Predicate → Bool)

theorem holds_all (cs : List Condition) : holds truth (all cs) = cs.all (holds truth) := by
  rw [holds]
  induction cs with
  | nil => rfl
  | cons c rest ih => rw [allHold, ih, List.all_cons]

theorem holds_any (cs : List Condition) : holds truth (any cs) = cs.any (holds truth) := by
  rw [holds]
  induction cs with
  | nil => rfl
  | cons c rest ih => rw [anyHolds, ih, List.any_cons]

end Condition

end TypedQuery
