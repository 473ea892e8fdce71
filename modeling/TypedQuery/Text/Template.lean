import TypedQuery.Facet.Basic
import TypedQuery.Text.Layout

/-!
Templates: text with places in braces that one named text is put into. A place may pick a
character by its position or look something up of the text, ask for the quoted form, and give a
width, a fill and an alignment. Doubled braces stand for themselves.
-/
set_option autoImplicit false

namespace TypedQuery

namespace Template

/-! ## Reading a template -/

inductive Part
  | literal (c : Char)
  | place (name : List Char) (conversion : Option Char) (layout : List Char)
  | fault

/-- Where the reader of a template is; what it has passed of a part stands last first. -/
inductive Mode
  | outside
  | name (passed : List Char)
  | position (passed : List Char)
  | layout (name : List Char) (conversion : Option Char) (passed : List Char) (depth : Nat)

/-- The parts of a template in order; nothing follows a fault. -/
def parts : Mode → List Char → List Part
  | .outside, [] => []
  | .outside, '\x7b' :: '\x7b' :: rest => .literal '\x7b' :: parts .outside rest
  | .outside, '\x7d' :: '\x7d' :: rest => .literal '\x7d' :: parts .outside rest
  | .outside, '\x7d' :: _ => [.fault]
  | .outside, ['\x7b'] => [.fault]
  | .outside, '\x7b' :: rest => parts (.name []) rest
  | .outside, c :: rest => .literal c :: parts .outside rest
  | .name _, [] => [.fault]
  | .name _, '\x7b' :: _ => [.fault]
  | .name passed, '[' :: rest => parts (.position ('[' :: passed)) rest
  | .name passed, '\x7d' :: rest => .place passed.reverse none [] :: parts .outside rest
  | .name passed, ':' :: rest => parts (.layout passed.reverse none [] 0) rest
  | .name passed, '!' :: conversion :: '\x7d' :: rest =>
    .place passed.reverse (some conversion) [] :: parts .outside rest
  | .name passed, '!' :: conversion :: ':' :: rest =>
    parts (.layout passed.reverse (some conversion) [] 0) rest
  | .name _, '!' :: _ => [.fault]
  | .name passed, c :: rest => parts (.name (c :: passed)) rest
  | .position _, [] => [.fault]
  | .position passed, ']' :: rest => parts (.name (']' :: passed)) rest
  | .position passed, c :: rest => parts (.position (c :: passed)) rest
  | .layout _ _ _ _, [] => [.fault]
  | .layout name conversion passed depth, '\x7b' :: rest =>
    parts (.layout name conversion ('\x7b' :: passed) (depth + 1)) rest
  | .layout name conversion passed 0, '\x7d' :: rest =>
    .place name conversion passed.reverse :: parts .outside rest
  | .layout name conversion passed (depth + 1), '\x7d' :: rest =>
    parts (.layout name conversion ('\x7d' :: passed) depth) rest
  | .layout name conversion passed depth, c :: rest =>
    parts (.layout name conversion (c :: passed) depth) rest

/-! ## Picking what a place shows -/

inductive Step
  | member (name : List Char)
  | position (text : List Char)
  | fault

inductive StepMode
  | between
  | member (passed : List Char)
  | position (passed : List Char)

def steps : StepMode → List Char → List Step
  | .between, [] => []
  | .between, '.' :: rest => steps (.member []) rest
  | .between, '[' :: rest => steps (.position []) rest
  | .between, _ => [.fault]
  | .member passed, [] => [.member passed.reverse]
  | .member passed, '.' :: rest => .member passed.reverse :: steps (.member []) rest
  | .member passed, '[' :: rest => .member passed.reverse :: steps (.position []) rest
  | .member passed, c :: rest => steps (.member (c :: passed)) rest
  | .position _, [] => [.fault]
  | .position passed, ']' :: rest => .position passed.reverse :: steps .between rest
  | .position passed, c :: rest => steps (.position (c :: passed)) rest

def ofFacetFault : FacetFault → TemplateFault
  | .beyond => .noSuchPosition
  | .unknown => .unknownName
  | .unfit => .notForThis

def takeStep (value : Facet) : Step → Except TemplateFault Facet
  | .fault => .error .malformed
  | .member [] => .error .malformed
  | .position [] => .error .malformed
  | .member name =>
    match value.member? (String.ofList name) with
    | some f => .ok f
    | none => .error .noMember
  | .position cs => do
    let key :=
      match ← numberOf? cs with
      | some n => FacetKey.position n
      | none => .word (String.ofList cs)
    (value.entry key).mapError ofFacetFault

/-- The facet that a place names: the one text there is, and what steps lead to. -/
def pick (known : String) (value : List Char) (name : List Char) : Except TemplateFault Facet := do
  let isStep (c : Char) : Bool := c = '.' || c = '['
  let first := name.takeWhile fun c => !isStep c
  if first.isEmpty || (← numberOf? first).isSome then throw .noSuchPosition
  if String.ofList first ≠ known then throw .unknownName
  (steps .between (name.dropWhile fun c => !isStep c)).foldlM takeStep (.text value)

/-- A facet shown as it is, or as text, or quoted, or quoted in the basic alphabet. -/
def convert (conversion : Option Char) (value : Facet) : Except TemplateFault Facet :=
  match conversion with
  | none => .ok value
  | some 's' => .ok (.text value.shown)
  | some 'r' => .ok (.text value.quoted)
  | some 'a' => .ok (.text (inBasicAlphabet value.quoted))
  | some _ => .error .malformed

/-- A facet in a layout. Only texts and integers take one that is not empty. -/
def laidOut (layout : List Char) (value : Facet) : Except TemplateFault (List Char) := do
  if layout.isEmpty then return value.shown
  match value with
  | .text cs => (← Layout.read layout).text cs
  | .integer n => (← Layout.read layout).integer n
  | .truth b => (← Layout.read layout).integer (if b then 1 else 0)
  | _ => throw .notForThis

/-! ## Filling -/

/-- Fills a template, places within layouts up to `depth` levels deep included. -/
def fillTo (known : String) (value : List Char) :
    Nat → List Char → Except TemplateFault (List Char)
  | 0, _ => .error .malformed
  | depth + 1, template => do
    let shown ← (parts .outside template).mapM fun part =>
      match part with
      | .fault => Except.error .malformed
      | .literal c => .ok [c]
      | .place name conversion layout => do
        let picked ← pick known value name
        let converted ← convert conversion picked
        let layout ← if layout.contains '\x7b' then fillTo known value depth layout else pure layout
        laidOut layout converted
    return shown.flatten

/-- Puts a text into the places of a template that carry its name. -/
def fill (known value template : String) : Except TemplateFault String :=
  (fillTo known value.toList 2 template.toList).map String.ofList

end Template

end TypedQuery
