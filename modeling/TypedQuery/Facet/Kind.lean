/-!
Kinds of things that a template may look up: the kinds of texts, numbers and sequences, of kinds
themselves, and of what can be looked up of a thing of some kind. Every kind stands below the kind
of all things.
-/
set_option autoImplicit false

namespace TypedQuery

inductive Kind
  | thing
  | nothing
  | truth
  | integer
  | text
  | sequence
  | kind
  /-- All members of a kind by their names. -/
  | overview
  /-- A method of some thing. -/
  | boundMethod
  /-- A slot of some thing. -/
  | boundSlot
  /-- A method of all things of a kind. -/
  | method
  /-- A basic operation of all things of a kind. -/
  | slot
  /-- A method of a kind itself. -/
  | kindMethod
  /-- A value of all things of a kind that is found out when it is asked for. -/
  | computed
  /-- A value that all things of a kind hold. -/
  | stored
  /-- A function that belongs to a kind and is about none of its things. -/
  | shared
  /-- A kind that is narrowed down by something. -/
  | narrowed
  deriving DecidableEq, Repr

namespace Kind

def label : Kind → String
  | .thing => "object"
  | .nothing => "NoneType"
  | .truth => "bool"
  | .integer => "int"
  | .text => "str"
  | .sequence => "tuple"
  | .kind => "type"
  | .overview => "mappingproxy"
  | .boundMethod => "builtin_function_or_method"
  | .boundSlot => "method-wrapper"
  | .method => "method_descriptor"
  | .slot => "wrapper_descriptor"
  | .kindMethod => "classmethod_descriptor"
  | .computed => "getset_descriptor"
  | .stored => "member_descriptor"
  | .shared => "staticmethod"
  | .narrowed => "GenericAlias"

def home : Kind → String
  | .narrowed => "types"
  | _ => "builtins"

/-- The label of a kind with its home, if that is not the usual one. -/
def fullLabel (k : Kind) : String :=
  if k.home = "builtins" then k.label else k.home ++ "." ++ k.label

/-- The kind and those above it, the nearest first. -/
def lineage : Kind → List Kind
  | .thing => [.thing]
  | .truth => [.truth, .integer, .thing]
  | k => [k, .thing]

def shown (k : Kind) : String := "<class '" ++ k.fullLabel ++ "'>"

/-- How a kind is made, as text, where that is said. -/
def signature? : Kind → Option String
  | .thing => some "()"
  | .sequence => some "(iterable=(), /)"
  | _ => none

/-- What the things of a kind measure: their size, the size of each of their parts, a number for
what they can do, and the places where references to them and their own values are held. -/
structure Measures where
  size : Nat
  part : Nat := 0
  abilities : Nat
  references : Nat := 0
  values : Nat := 0

def measures : Kind → Measures
  | .thing => { size := 16, abilities := 529664 }
  | .nothing => { size := 16, abilities := 528640 }
  | .truth => { size := 32, part := 4, abilities := 21500160 }
  | .integer => { size := 24, part := 4, abilities := 21501184 }
  | .text => { size := 80, abilities := 273159424 }
  | .sequence => { size := 24, part := 8, abilities := 71849248 }
  | .kind => { size := 904, part := 40, abilities := 2148031744, references := 368, values := 264 }
  | .overview => { size := 24, abilities := 545088 }
  | .boundMethod => { size := 56, abilities := 547200, references := 40 }
  | .boundSlot => { size := 32, abilities := 545152 }
  | .method => { size := 56, abilities := 678272 }
  | .slot => { size := 56, abilities := 676224 }
  | .kindMethod => { size := 56, abilities := 545152 }
  | .computed => { size := 48, abilities := 545152 }
  | .stored => { size := 48, abilities := 545152 }
  | .shared => { size := 32, abilities := 546048, values := 24 }
  | .narrowed => { size := 64, abilities := 548096, references := 40 }

end Kind

end TypedQuery
