import TypedQuery.Facet.Members
import TypedQuery.Text.Quoted

/-!
What a template may look up of a text besides the text: the kind of thing that it is, the members
of that kind, what is said about them, and so on from each of these. Everything shown is a text in
the end.
-/
set_option autoImplicit false

namespace TypedQuery

inductive Facet
  | text (cs : List Char)
  | integer (n : Int)
  | truth (b : Bool)
  | nothing
  | sequence (items : List Facet)
  | kind (k : Kind)
  /-- All members of a kind by their names. -/
  | overview (k : Kind)
  /-- A member of a kind, apart from any thing of it. -/
  | member (owner : Kind) (m : Member)
  /-- A member of a kind that is about a thing. -/
  | bound (owner : Kind) (m : Member) (thing : Facet)
  /-- A function that belongs to a kind, as the kind holds it. -/
  | shared (owner : Kind) (m : Member)
  | narrowed (k : Kind) (key : Facet)

/-- What something is looked up by in brackets: a position, or a word. -/
inductive FacetKey
  | position (n : Nat)
  | word (s : String)

inductive FacetFault
  /-- A position beyond the end. -/
  | beyond
  /-- A key that there is not. -/
  | unknown
  /-- A key of the wrong sort, or something that has no keys. -/
  | unfit
  deriving DecidableEq, Repr

namespace Facet

def ofText (s : String) : Facet := .text s.toList

/-- A text as a facet, if there is one. -/
def ofText? (s : Option String) : Facet := (s.map ofText).getD .nothing

def kindOf : Facet → Kind
  | .text _ => .text
  | .integer _ => .integer
  | .truth _ => .truth
  | .nothing => .nothing
  | .sequence _ => .sequence
  | .kind _ => .kind
  | .overview _ => .overview
  | .member _ m =>
    match m.form with
    | .slot => .slot
    | .kindMethod => .kindMethod
    | .computed => .computed
    | .stored => .stored
    | _ => .method
  | .bound _ m _ => if m.form = .slot then .boundSlot else .boundMethod
  | .shared _ _ => .shared
  | .narrowed _ _ => .narrowed

def held (owner : Kind) (m : Member) : Facet :=
  match m.form with
  | .maker => .bound owner m (.kind owner)
  | .shared => .shared owner m
  | .said => ofText? m.description
  | _ => .member owner m

/-! ## Facets as text -/

/-- The beginning of the number of the place where a thing lies, of which nothing more is known. -/
def placeText : String := "0x7f0000000000"

def memberText (owner : Kind) (m : Member) : String :=
  let form :=
    match m.form with
    | .slot => "slot wrapper"
    | .computed => "attribute"
    | .stored => "member"
    | _ => "method"
  "<" ++ form ++ " '" ++ m.name ++ "' of '" ++ owner.fullLabel ++ "' objects>"

/-- A member that is about a thing of some kind as text. -/
def boundText (m : Member) (k : Kind) : String :=
  let form :=
    if m.form = .slot then "method-wrapper '" ++ m.name ++ "'" else "built-in method " ++ m.name
  "<" ++ form ++ " of " ++ k.fullLabel ++ " object at " ++ placeText ++ ">"

/-- A member as text, as its kind holds it. -/
def heldText (owner : Kind) (m : Member) : String :=
  match m.form with
  | .maker => boundText m .kind
  | .shared => "<staticmethod(" ++ boundText m .kind ++ ")>"
  | .said => (m.description.map quotedText).getD "None"
  | _ => memberText owner m

/-- All members of a kind by their names, as text. -/
def membersText (k : Kind) : String :=
  let entries := k.members.map fun m => quotedText m.name ++ ": " ++ heldText k m
  "\x7b" ++ String.intercalate ", " entries ++ "\x7d"

mutual

/-- A facet as text, where a text is quoted. -/
def literal : Facet → String
  | .text cs => quotedText (String.ofList cs)
  | .integer n => toString n
  | .truth b => if b then "True" else "False"
  | .nothing => "None"
  | .sequence items =>
    match items with
    | [item] => "(" ++ literal item ++ ",)"
    | items => "(" ++ String.intercalate ", " (literals items) ++ ")"
  | .kind k => k.shown
  | .overview k => "mappingproxy(" ++ membersText k ++ ")"
  | .member owner m => memberText owner m
  | .bound _ m thing => boundText m thing.kindOf
  | .shared owner m => heldText owner m
  | .narrowed k key => k.label ++ "[" ++ literal key ++ "]"

def literals : List Facet → List String
  | [] => []
  | f :: rest => literal f :: literals rest

end

def shown : Facet → List Char
  | .text cs => cs
  | .overview k => (membersText k).toList
  | f => f.literal.toList

/-- A facet as text, where a text is quoted. -/
def quoted (f : Facet) : List Char := f.literal.toList

/-! ## Looking up by name -/

def ofDescription : Kind → Facet
  | .kind =>
    ofText "type(object) -> the object's type\ntype(name, bases, dict, **kwds) -> a new type"
  | k => ((k.members.find? fun m => m.name == "__doc__").map (held k)).getD .nothing

/-- The value with a name that a kind holds. -/
def ofKind? (k : Kind) (name : String) : Option Facet :=
  let above := k.lineage.drop 1
  match name with
  | "__name__" => some (ofText k.label)
  | "__qualname__" => some (ofText k.label)
  | "__module__" => some (ofText k.home)
  | "__doc__" => some (ofDescription k)
  | "__text_signature__" => some (ofText? k.signature?)
  | "__base__" => some ((above.head?.map Facet.kind).getD .nothing)
  | "__bases__" => some (.sequence ((above.take 1).map .kind))
  | "__mro__" => some (.sequence (k.lineage.map .kind))
  | "__dict__" => some (.overview k)
  | "__basicsize__" => some (.integer k.measures.size)
  | "__itemsize__" => some (.integer k.measures.part)
  | "__flags__" => some (.integer k.measures.abilities)
  | "__weakrefoffset__" => some (.integer k.measures.references)
  | "__dictoffset__" => some (.integer k.measures.values)
  | _ => none

/-- The value with a name that an integer holds. -/
def ofInteger? (n : Int) (name : String) : Option Facet :=
  match name with
  | "real" => some (.integer n)
  | "numerator" => some (.integer n)
  | "imag" => some (.integer 0)
  | "denominator" => some (.integer 1)
  | _ => none

/-- The value with a name that a member holds. The label in front of its own name is that of the
kind that it belongs to, or of the kind of the thing that it is about. -/
def ofMember? (owner : Kind) (m : Member) (k : Kind) (name : String) : Option Facet :=
  match name with
  | "__name__" => some (ofText m.name)
  | "__qualname__" => some (ofText (k.label ++ "." ++ m.name))
  | "__doc__" => some (ofText? m.description)
  | "__text_signature__" => some (ofText? m.signature)
  | "__objclass__" => some (.kind owner)
  | "__module__" => some .nothing
  | _ => none

/-- The value with a name that a narrowed kind holds. -/
def ofNarrowed? (k : Kind) (key : Facet) (name : String) : Option Facet :=
  match name with
  | "__origin__" => some (.kind k)
  | "__args__" => some (.sequence [key])
  | "__parameters__" => some (.sequence [])
  | "__unpacked__" => some (.truth false)
  | "__typing_unpacked_tuple_args__" => some .nothing
  | _ => none

/-- The value with a name that a thing holds. -/
def value? (f : Facet) (name : String) : Option Facet :=
  if name = "__class__" then some (.kind f.kindOf)
  else
    match f with
    | .kind k => ofKind? k name
    | .integer n => ofInteger? n name
    | .truth b => ofInteger? (if b then 1 else 0) name
    | .member owner m => ofMember? owner m owner name
    | .bound owner m thing =>
      if name = "__self__" then some (if m.form = .shared then .nothing else thing)
      else
        match m.form, thing with
        | .slot, _ => ofMember? owner m owner name
        | _, .kind k => ofMember? owner m k name
        | _, thing => ofMember? owner m thing.kindOf name
    | .shared owner m =>
      match name with
      | "__func__" => some (.bound owner m (.kind owner))
      | "__wrapped__" => some (.bound owner m (.kind owner))
      | "__isabstractmethod__" => some (.truth false)
      | _ => none
    | .narrowed k key => ofNarrowed? k key name
    | _ => none

/-- A member that was found for a thing: the value that it stands for, or the member itself, about
that thing, its kind, or the kind that the member belongs to. -/
def ofThing? (f : Facet) (owner : Kind) (m : Member) : Option Facet :=
  match m.form with
  | .computed => f.value? m.name
  | .stored => f.value? m.name
  | .slot => some (.bound owner m f)
  | .method => some (.bound owner m f)
  | .kindMethod => some (.bound owner m (.kind f.kindOf))
  | .maker => some (.bound owner m (.kind owner))
  | .shared => some (.bound owner m (.kind owner))
  | .said => some (ofText? m.description)

/-- A member that was found among those of a kind itself. -/
def ofOwn (k owner : Kind) (m : Member) : Facet :=
  match m.form with
  | .kindMethod => .bound owner m (.kind k)
  | .shared => .bound owner m (.kind owner)
  | _ => held owner m

/-- What a kind has under a name: a value that kinds hold, one of the members of its own things, or
a member that kinds have like other things. -/
def underName? (k : Kind) (name : String) : Option Facet :=
  let general := Kind.kind.member? name
  match general with
  | some (_, { form := .computed, .. }) => value? (.kind k) name
  | some (_, { form := .stored, .. }) => value? (.kind k) name
  | _ =>
    match k.member? name with
    | some (owner, m) => some (ofOwn k owner m)
    | none => general.bind fun found => ofThing? (.kind k) found.1 found.2

/-- The names that a narrowed kind has for itself; it has all others as the kind has them. -/
def narrowedNames : List String :=
  ["__class__", "__bases__", "__origin__", "__args__", "__unpacked__", "__parameters__",
    "__typing_unpacked_tuple_args__", "__mro_entries__", "__reduce_ex__", "__reduce__",
    "__copy__", "__deepcopy__"]

def member? (f : Facet) (name : String) : Option Facet :=
  let plain := (f.kindOf.member? name).bind fun found => f.ofThing? found.1 found.2
  match f with
  | .kind k => underName? k name
  | .narrowed k _ => if narrowedNames.contains name then plain else underName? k name
  | _ => plain

/-! ## Looking up in brackets -/

def entryAt (items : List Facet) (key : FacetKey) : Except FacetFault Facet :=
  match key with
  | .word _ => .error .unfit
  | .position n =>
    match items[n]? with
    | some f => .ok f
    | none => .error .beyond

def ofKey : FacetKey → Facet
  | .position n => .integer n
  | .word s => ofText s

/-- What a facet has in brackets: a character of a text, an item of a sequence, a member in an
overview, or a kind narrowed down. -/
def entry (f : Facet) (key : FacetKey) : Except FacetFault Facet :=
  match f, key with
  | .text cs, key => entryAt (cs.map fun c => .text [c]) key
  | .sequence items, key => entryAt items key
  | .overview k, .word name =>
    match k.members.find? fun m => m.name == name with
    | some m => .ok (held k m)
    | none => .error .unknown
  | .overview _, .position _ => .error .unknown
  | .kind k, key =>
    if k = .kind || (k.member? "__class_getitem__").isSome then .ok (.narrowed k (ofKey key))
    else .error .unfit
  | _, _ => .error .unfit

end Facet

end TypedQuery
