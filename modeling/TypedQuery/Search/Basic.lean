import TypedQuery.Condition.Builder
import TypedQuery.Condition.Printer
import TypedQuery.Query.Compile
import TypedQuery.Reply.Decode

/-!
Searches built step by step. A search holds the conditions joined so far, at most one
nearest-neighbour predicate and a sorting; every step gives a new search and leaves the old one.
Steps are joined from left to right: a conjunction or a choice that is already there is continued
by a step of its own kind and becomes a member for a step of the other kind.
-/
set_option autoImplicit false

namespace TypedQuery

/-- How a step is joined to the conditions so far. -/
inductive Join
  | and
  | or
  deriving DecidableEq, Repr

def Join.apply : Join → Condition → Condition → Condition
  | .and => Condition.and
  | .or => Condition.or

structure Search where
  schema : Schema
  settings : Settings
  node : Option Condition := none
  nearest : Option Condition := none
  sort : Option (Value × Direction) := none

inductive FieldCall
  | equals (value : Value)
  | above (bound : Value) (inclusive : Bool)
  | below (bound : Value) (inclusive : Bool)
  | between (lower upper : Value)
  | terms (pattern : Value) (exact : Bool)
  | contains (value : Value)
  | containsOneOf (values : List Value)
  | inRadius (longitude latitude radius unit : Value)

/-- A step as a caller writes it. A group is given by its own steps, or by nothing where the
caller made no search of it. -/
inductive Step
  | field (join : Join) (target : Target) (negations : Nat) (method : String)
      (arguments : List Value)
  | group (join : Join) (steps : Option (List Step))
  | nearest (target : Target) (k vector scoreAlias : Value)
  | sortBy (field direction : Value)

namespace FieldCall

def ofOne (make : Value → FieldCall) : List Value → Result FieldCall
  | [v] => .ok (make v)
  | _ => .error (.misuse .wrongType)

/-- A call without arguments. -/
def ofNone (call : FieldCall) : List Value → Result FieldCall
  | [] => .ok call
  | _ => .error (.misuse .wrongType)

/-- The call of a method with arguments. Several methods are other names of one call. The negation
is a method without a call. -/
def ofMethod (method : String) : List Value → Result FieldCall :=
  match method with
  | "eq" | "equals" | "equal_to" | "on" => ofOne .equals
  | "true" => ofNone (.equals (.bool true))
  | "false" => ofNone (.equals (.bool false))
  | "gt" | "greater_than" | "after" => ofOne (.above · false)
  | "gte" | "greater_than_or_equal" | "on_or_after" => ofOne (.above · true)
  | "lt" | "less_than" | "before" => ofOne (.below · false)
  | "lte" | "less_than_or_equal" | "on_or_before" => ofOne (.below · true)
  | "between" => fun
    | [v, w] => .ok (.between v w)
    | _ => .error (.misuse .wrongType)
  | "match" => ofOne (.terms · false)
  | "match_exact" => ofOne (.terms · true)
  | "contains" => ofOne .contains
  | "contains_one_of" => fun values => .ok (.containsOneOf values)
  | "in_radius" => fun
    | [x, y, r] => .ok (.inRadius x y r (.text "mi"))
    | [x, y, r, unit] => .ok (.inRadius x y r unit)
    | _ => .error (.misuse .wrongType)
  | "not_" => fun _ => .error (.misuse .wrongType)
  | _ => fun _ => .error (.misuse .noMember)

/-- The condition that a call makes of a field. A single sequence of tags is taken apart. -/
def condition (call : FieldCall) (target : Target) : Result Condition :=
  match call with
  | .equals v => Condition.equals target v
  | .above v inclusive => Condition.range target v .null (.bool inclusive) (.bool true)
  | .below v inclusive => Condition.range target .null v (.bool true) (.bool inclusive)
  | .between v w => Condition.range target v w (.bool true) (.bool true)
  | .terms v exact => Condition.terms target v (.bool exact)
  | .contains v => Condition.contains target v
  | .containsOneOf [.text s] => Condition.containsAny target (.tuple [.text s])
  | .containsOneOf [v] => do Condition.containsAny target (.tuple (← v.members))
  | .containsOneOf vs => Condition.containsAny target (.tuple vs)
  | .inRadius x y r unit => Condition.within target x y r unit

end FieldCall

namespace Search

def start (schema : Schema) (settings : Settings) : Search := { schema, settings }

/-- The field that a step is about: one that is given, or the one of the schema that a name
means. -/
def resolve (s : Search) (target : Target) : Result Target :=
  match target with
  | .field f origin => .ok (.field f origin)
  | .other name => do return .field (← s.schema.get name) .schema

/-- A condition joined to those so far. The first one is taken as it is. -/
def joinNode (s : Search) (join : Join) (node : Condition) : Search :=
  match s.node with
  | none => { s with node := some node }
  | some current => { s with node := some (join.apply current node) }

/-- All conditions, the nearest-neighbour predicate last. -/
def conditions (s : Search) : Condition :=
  match s.node, s.nearest with
  | none, none => .absent
  | some node, none => node
  | none, some nearest => nearest
  | some node, some nearest => .all [node, nearest]

/-- A group joined to the conditions so far; an empty group changes nothing. -/
def joinGroup (s : Search) (join : Join) (group : Search) : Result Search :=
  if group.nearest.isSome then .error (.input .groupWithNeighbours)
  else
    match group.node with
    | none => .ok s
    | some node => .ok (s.joinNode join node)

/-- A condition under an odd number of negations is negated. -/
def negatedTimes (count : Nat) (node : Condition) : Condition :=
  if count % 2 = 1 then .negation node else node

def directionOf (v : Value) : Result Direction := do
  let label := upperCase (← v.display)
  match Direction.ofLabel? label with
  | some direction => return direction
  | none => throw (.input (.unknownDirection label))

mutual

def apply (s : Search) : Step → Result Search
  | .field join target negations method arguments => do
    let target ← s.resolve target
    let call ← FieldCall.ofMethod method arguments
    let node ← call.condition target
    return s.joinNode join (negatedTimes negations node)
  | .group _ none => .error (.input .groupNotSearch)
  | .group join (some steps) => do
    let group ← applyAll (start s.schema s.settings) steps
    s.joinGroup join group
  | .nearest target k vector scoreAlias => do
    let target ← s.resolve target
    let node ← Condition.nearest target k vector scoreAlias
    return { s with nearest := some node }
  | .sortBy field direction => do
    let direction ← directionOf direction
    return { s with sort := some (field, direction) }

/-- The search after steps, one after the other. -/
def applyAll (s : Search) : List Step → Result Search
  | [] => .ok s
  | step :: rest => do
    let s ← apply s step
    applyAll s rest

end

def literal (s : Search) : Result String := do
  return "Search(index='" ++ s.schema.indexName.shown ++ "', conditions="
    ++ (← s.conditions.literal) ++ ")"

/-- The options of a search: its sorting and nothing else. -/
def options (s : Search) : SearchOptions :=
  match s.sort with
  | none => {}
  | some (column, direction) =>
    { sortBy := column, sortDirection := .text direction.label }

def compiler (s : Search) : Compiler := ⟨s.schema, s.settings⟩

def decoder (s : Search) : Decoder := ⟨s.schema, s.settings⟩

end Search

end TypedQuery
