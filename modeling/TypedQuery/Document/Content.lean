import TypedQuery.Document.Meaning
import TypedQuery.Document.Node

/-!
What the nodes of a document say. Scalars have values; lists and tables mention what their parts
say by number, and are filled one after the other in the order in which they were first met, so
that of several faults the one found first counts. A mapping may take in the entries of others,
which come before its own.
-/
set_option autoImplicit false

namespace TypedQuery

namespace Document

inductive Content
  | plain (v : Value)
  /-- The missing number that is written as a word, which is one and the same thing wherever it
  is written. -/
  | missing
  | list (items : List NodeId)
  | pairs (entries : List Entry)
  | table (entries : List Entry)

/-- The nodes of a document, what those say that have been met, and the numbers of the lists and
tables that were met, in that order. -/
structure Gathering where
  nodes : Nodes
  contents : Array (Option Content)
  met : Array NodeId := #[]

abbrev Gather (α : Type) := StateT Gathering (Except Error) α

namespace Gather

def giveUp {α : Type} : Gather α := throw (.document .content)

def node (id : NodeId) : Gather Node := return (← get).nodes.node id

def settle (id : NodeId) (content : Content) : Gather Unit :=
  modify fun g => { g with contents := g.contents.setIfInBounds id (some content) }

/-! ## Scalars -/

/-- The text of a node where a scalar is asked for: a mapping stands for its standard value. The
first argument bounds the number of mappings that stand for another one. -/
def scalarText (nodes : Nodes) : Nat → NodeId → Result String
  | 0, _ => .error (.misuse .endless)
  | count + 1, id =>
    match (nodes.node id).body with
    | .scalar text => .ok text
    | .sequence _ => refuse .content
    | .mapping entries =>
      match entries.find? fun e => (nodes.node e.1).sort = .standard with
      | some e => scalarText nodes count e.2
      | none => refuse .content

/-- What a node of the sort of a scalar says. No mapping stands for a day or a point in time. -/
def scalarContent (id : NodeId) (node : Node) : Gather Content := do
  if [NodeSort.merge, .standard, .other].contains node.sort then giveUp
  let nodes := (← get).nodes
  let text ← scalarText nodes (nodes.size + 1) id
  match node.sort, node.body with
  | .instant, .mapping _ => throw (.misuse .wrongType)
  | .fraction, _ => if isMissingWord text then return .missing
  | _, _ => pure ()
  return .plain (← scalarValue node.sort text)

/-- What a node says; a list or a table that is met for the first time is empty as yet. -/
def visit (id : NodeId) : Gather Content := do
  if let some (some content) := (← get).contents[id]? then return content
  let node ← node id
  let later (content : Content) : Gather Content := do
    modify fun g => { g with met := g.met.push id }
    return content
  let content ←
    match node.sort with
    | .sequence => later (.list [])
    | .pairs => later (.pairs [])
    | .mapping => later (.table [])
    | .keys => later (.list [])
    | _ => scalarContent id node
  settle id content
  return content

/-! ## Entries taken in -/

def entriesOf (id : NodeId) : Gather (List Entry) := do
  match (← node id).body with
  | .mapping entries => return entries
  | _ => giveUp

def setEntries (id : NodeId) (entries : List Entry) : Gather Unit :=
  modify fun g => { g with nodes := g.nodes.fill id (.mapping entries) }

/-- The entries that a mapping takes in with a value, with a way to merge a mapping first: those of
a mapping, or of several ones, the last one first. -/
def entriesUnder (merge : NodeId → Gather Unit) (value : NodeId) : Gather (List Entry) := do
  let entriesFrom (id : NodeId) : Gather (List Entry) := do
    let _ ← entriesOf id
    merge id
    entriesOf id
  match (← node value).body with
  | .sequence items => return (← items.mapM entriesFrom).reverse.flatten
  | _ => entriesFrom value

/-- Takes the marks for entries to be taken in out of a mapping, at most so many, and returns what
is taken in. -/
def takeMarks (merge : NodeId → Gather Unit) (id : NodeId) : Nat → Gather (List Entry)
  | 0 => return []
  | count + 1 => do
    let entries ← entriesOf id
    let nodes := (← get).nodes
    let isOwn (e : Entry) : Bool := (nodes.node e.1).sort ≠ .merge
    match entries.dropWhile isOwn with
    | [] => return []
    | mark :: rest =>
      setEntries id (entries.takeWhile isOwn ++ rest)
      let taken ← entriesUnder merge mark.2
      return taken ++ (← takeMarks merge id count)

/-- Makes a text of the key of a standard value. -/
def makeText (key : NodeId) : Gather Unit :=
  modify fun g => { g with nodes := g.nodes.modify key fun n =>
    { n with sort := if n.sort = .standard then .text else n.sort } }

/-- The most mappings of which each is taken in by the one before. -/
def mostMerges : Nat := 970

/-- Puts the entries that a mapping takes in before its own, where keys of standard values are
texts like others. The first argument bounds the number of mappings that wait for this one. -/
def merge : Nat → NodeId → Gather Unit
  | 0, _ => throw (.misuse .endless)
  | count + 1, id => do
    let taken ← takeMarks (merge count) id (← entriesOf id).length
    let own ← entriesOf id
    own.forM fun e => makeText e.1
    setEntries id (taken ++ own)

/-! ## Lists and tables -/

/-- Are two keys the same? A missing number is only the same as itself. -/
def sameKey (k l : NodeId × Content) : Bool :=
  match k.2, l.2 with
  | .missing, .missing => true
  | .plain v, .plain w => k.1 = l.1 || v.same w
  | _, _ => false

/-- Entries with one more, or with another value where the key is among them. -/
def insertEntry (entries : List (Entry × Content)) (e : Entry) (key : Content) :
    List (Entry × Content) :=
  let isSame (old : Entry × Content) : Bool := sameKey (old.1.1, old.2) (e.1, key)
  if entries.any isSame then
    entries.map fun old => if isSame old then ((old.1.1, e.2), old.2) else old
  else entries ++ [(e, key)]

/-- The entries of a mapping, each key once. Lists and tables are no keys. -/
def readEntries (id : NodeId) : Gather (List Entry) := do
  merge mostMerges id
  let found ← (← entriesOf id).foldlM (fun found e => do
    let key ← visit e.1
    match key with
    | .plain _ | .missing =>
      let _ ← visit e.2
      return insertEntry found e key
    | _ => giveUp) []
  return found.map (·.1)

/-- The only entry of a mapping, with both parts met. -/
def readPair (id : NodeId) : Gather Entry := do
  match ← entriesOf id with
  | [e] =>
    let _ ← visit e.1
    let _ ← visit e.2
    return e
  | _ => giveUp

/-- Fills a list or a table that was met. -/
def fill (id : NodeId) : Gather Unit := do
  let node ← node id
  match node.sort, node.body with
  | .sequence, .sequence items =>
    items.forM fun item => do
      let _ ← visit item
    settle id (.list items)
  | .pairs, .sequence items => settle id (.pairs (← items.mapM readPair))
  | .mapping, .mapping _ => settle id (.table (← readEntries id))
  | .keys, .mapping _ => settle id (.list ((← readEntries id).map (·.1)))
  | _, _ => giveUp

/-- Fills what was met, from a place on, at most so many. -/
def fillFrom : Nat → Nat → Gather Unit
  | 0, _ => return
  | count + 1, place => do
    if let some id := (← get).met[place]? then
      fill id
      fillFrom count (place + 1)

/-- Finds out what a node says, and all nodes that are part of it. -/
def gather (root : NodeId) : Gather Unit := do
  let _ ← visit root
  fillFrom ((← get).nodes.size + 1) 0

end Gather

/-! ## Values -/

/-- What the nodes of a document say, by their numbers. -/
abbrev Contents := Array (Option Content)

namespace Contents

def content (contents : Contents) (id : NodeId) : Content :=
  (contents.getD id none).getD (.plain .null)

/-- The numbers of the nodes that are mentioned by what a node says. -/
def parts (contents : Contents) (id : NodeId) : List NodeId :=
  let both (entries : List Entry) : List NodeId := entries.flatMap fun e => [e.1, e.2]
  match contents.content id with
  | .list items => items
  | .pairs entries => both entries
  | .table entries => both entries
  | _ => []

/-- How far a walk has come with a node. -/
inductive Stage
  | unseen
  | entered
  | left
  deriving DecidableEq

/-- A walk through nodes and their parts: how far it has come with each node, the nodes left in
their order, and whether one was found within itself. -/
structure Walk where
  stages : Array Stage
  order : Array NodeId := #[]
  isEndless : Bool := false

/-- Walks through a node and its parts, which are left before it. The first argument bounds the
depth. -/
def walk (contents : Contents) : Nat → Walk → NodeId → Walk
  | 0, w, _ => w
  | count + 1, w, id =>
    match w.stages.getD id .left with
    | .left => w
    | .entered => { w with isEndless := true }
    | .unseen =>
      let inside := { w with stages := w.stages.setIfInBounds id .entered }
      let w := (contents.parts id).foldl (walk contents count) inside
      { w with stages := w.stages.setIfInBounds id .left, order := w.order.push id }

/-- The value of a node from those of its parts. -/
def valueFrom (contents : Contents) (values : Array Value) (id : NodeId) : Value :=
  let part (id : NodeId) : Value := values.getD id .null
  match contents.content id with
  | .plain v => v
  | .missing => .double .notANumber
  | .list items => .list (items.map part)
  | .pairs entries => .list (entries.map fun e => .tuple [part e.1, part e.2])
  | .table entries => .map (entries.map fun e => (part e.1, part e.2))

/-- The value of a list or a table as long as its parts have none. -/
def valueBefore : Option Content → Value
  | some (.list _) => .list []
  | some (.pairs _) => .list []
  | some (.table _) => .map []
  | _ => .null

/-- The values of nodes, each from those that its parts have by then. -/
def passOver (contents : Contents) (order : Array NodeId) (values : Array Value) : Array Value :=
  order.foldl (fun values id => values.setIfInBounds id (contents.valueFrom values id)) values

end Contents

/-- What a document says: its value, of which there are only some levels if it has no end. -/
structure Reading where
  value : Value
  isEndless : Bool

namespace Reading

/-- The levels shown of a value that has no end. -/
def shownLevels : Nat := 3

/-- What the outermost node of a document says. Where no node is found within itself, the parts of
each one have their values before it. -/
def ofTree (tree : Tree) : Result Reading := do
  let size := tree.nodes.size
  let start : Gathering := { nodes := tree.nodes, contents := Array.replicate size none }
  let contents : Contents := (← (Gather.gather tree.root).run start).2.contents
  let unseen : Contents.Walk := { stages := Array.replicate size .unseen }
  let walked := contents.walk (size + 1) unseen tree.root
  let levels := if walked.isEndless then shownLevels else 1
  let values := (List.range levels).foldl (fun values _ => contents.passOver walked.order values)
    (contents.map Contents.valueBefore)
  return ⟨values.getD tree.root .null, walked.isEndless⟩

end Reading

/-- The sizes of the blocks in which a text is read: that of the first one, and that of each later
one. -/
def blockSizes : Nat × Nat := (8192, 4096)

/-- Reads a document that comes in blocks of these sizes; an empty text says nothing. -/
def readBlocks (sizes : Nat × Nat) (text : String) : Result Reading := do
  let part ← readablePart sizes.1 sizes.2 (withPlainBreaks text.toList)
  match ← treeOf part with
  | none => return ⟨.null, false⟩
  | some tree => Reading.ofTree tree

def read (text : String) : Result Reading := readBlocks blockSizes text

end Document

end TypedQuery
