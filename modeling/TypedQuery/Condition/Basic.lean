import TypedQuery.Schema

/-!
Conditions: predicates on fields, joined by "all", "any" and "not". A tree may have been put
together by hand, so that a place for a field or for a condition can hold any value; nothing at
all is the condition that every record meets.
-/
set_option autoImplicit false

namespace TypedQuery

/-- Where a field comes from: from the schema that the conditions are for, or from the caller. -/
inductive Origin
  | schema
  | caller
  deriving DecidableEq, Repr

/-- What a predicate is about: a field, or something that is none. -/
inductive Target
  | field (f : Field) (origin : Origin)
  | other (v : Value)

inductive Predicate
  /-- It has this value. -/
  | equals (value : Value)
  /-- It lies between two bounds; nothing stands for an open bound. -/
  | range (lower upper lowerInclusive upperInclusive : Value)
  /-- It has one of these tags. -/
  | contains (values : List Value)
  /-- Its text has these words, or this phrase if `exact`. -/
  | terms (pattern exact : Value)
  /-- Its point lies within a circle. -/
  | within (longitude latitude radius unit : Value)
  /-- Its vector is one of the `k` nearest to this one. -/
  | nearest (k vector scoreAlias : Value)

inductive Condition
  | leaf (target : Target) (predicate : Predicate)
  | all (children : List Condition)
  | any (children : List Condition)
  | negation (child : Condition)
  /-- A condition of no known kind. -/
  | blank
  /-- A value where a condition has to be. -/
  | foreign (v : Value)
  deriving Inhabited

namespace Target

/-- The name of what stands in the place of a field. -/
def typeName : Target → String
  | .field .. => "FieldDescriptor"
  | .other v => v.typeName

def literal : Target → Result String
  | .field f _ => .ok f.literal
  | .other v => v.literal

/-- Equal in meaning. Two fields of the schema are also equal if they are one field, even where a
part of it is a missing number and so equals nothing. -/
def same : Target → Target → Bool
  | .field f .schema, .field g .schema => f.same g || f.identical g
  | .field f _, .field g _ => f.same g
  | .other v, .other w => v.same w
  | _, _ => false

end Target

namespace Predicate

def typeName : Predicate → String
  | .equals .. => "Equals"
  | .range .. => "Range"
  | .contains .. => "Contains"
  | .terms .. => "Matches"
  | .within .. => "Within"
  | .nearest .. => "VectorKNN"

def fits : Predicate → List FieldType
  | .equals .. => [.text, .tag, .number, .boolean, .date]
  | .range .. => [.number, .date]
  | .contains .. => [.tag]
  | .terms .. => [.text]
  | .within .. => [.geo]
  | .nearest .. => [.vector]

def same : Predicate → Predicate → Bool
  | .equals v, .equals w => v.same w
  | .range a b c d, .range e f g h => a.same e && b.same f && c.same g && d.same h
  | .contains vs, .contains ws => Value.sameItems vs ws
  | .terms a b, .terms c d => a.same c && b.same d
  | .within a b c d, .within e f g h => a.same e && b.same f && c.same g && d.same h
  | .nearest a b c, .nearest d e f => a.same d && b.same e && c.same f
  | _, _ => false

end Predicate

namespace Condition

@[match_pattern] abbrev absent : Condition := .foreign .null

def isAbsent : Condition → Bool
  | .absent => true
  | _ => false

def isNearest : Condition → Bool
  | .leaf _ (.nearest ..) => true
  | _ => false

/-- The name of a node, or of the type of what stands in its place. -/
def typeName : Condition → String
  | .leaf _ p => p.typeName
  | .all _ => "And"
  | .any _ => "Or"
  | .negation _ => "Not"
  | .blank => "ConditionNode"
  | .foreign v => v.typeName

/-! ## Joining -/

/-- Both conditions hold; a left side that is already a conjunction is continued. -/
def and (left right : Condition) : Condition :=
  match left with
  | .all children => .all (children ++ [right])
  | left => .all [left, right]

/-- One of the conditions holds; a left side that is already a choice is continued. -/
def or (left right : Condition) : Condition :=
  match left with
  | .any children => .any (children ++ [right])
  | left => .any [left, right]

def not (child : Condition) : Condition := .negation child

/-! ## Looking through a tree -/

mutual

/-- The nodes of a tree, a parent before its children and these from left to right. -/
def walk : Condition → List Condition
  | .absent => []
  | .all children => .all children :: walkAll children
  | .any children => .any children :: walkAll children
  | .negation child => .negation child :: walk child
  | c => [c]

/-- The nodes of trees, one tree after the other. -/
def walkAll : List Condition → List Condition
  | [] => []
  | c :: rest => walk c ++ walkAll rest

end

mutual

def isEmpty : Condition → Bool
  | .absent => true
  | .all children => allEmpty children
  | _ => false

def allEmpty : List Condition → Bool
  | [] => true
  | c :: rest => isEmpty c && allEmpty rest

end

mutual

/-- Equal in meaning. A condition of no known kind equals nothing. -/
def same : Condition → Condition → Bool
  | .leaf t p, .leaf u q => t.same u && p.same q
  | .all cs, .all ds => sameAll cs ds
  | .any cs, .any ds => sameAll cs ds
  | .negation c, .negation d => same c d
  | .foreign v, .foreign w => v.same w
  | _, _ => false

/-- Equal in meaning, one by one. -/
def sameAll : List Condition → List Condition → Bool
  | [], [] => true
  | c :: cs, d :: ds => same c d && sameAll cs ds
  | _, _ => false

end

end Condition

end TypedQuery
