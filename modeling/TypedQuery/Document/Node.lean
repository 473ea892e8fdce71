import TypedQuery.Document.Instant
import TypedQuery.Document.Token

/-!
The nodes of a document: scalars, sequences and mappings, each of a sort. Nodes have numbers, and a
collection names its parts by them, so that an alias is one more mention of a number. A node may
be part of several others, and of itself. A text holds one document at most.
-/
set_option autoImplicit false

namespace TypedQuery

namespace Document

abbrev NodeId := Nat

abbrev Entry := NodeId × NodeId

inductive NodeBody
  | scalar (text : String)
  | sequence (items : List NodeId)
  | mapping (entries : List Entry)
  deriving DecidableEq, Repr

structure Node where
  sort : NodeSort
  body : NodeBody
  deriving DecidableEq, Repr

def Node.empty : Node := ⟨.nothing, .scalar ""⟩

abbrev Nodes := Array Node

namespace Nodes

def node (nodes : Nodes) (id : NodeId) : Node := nodes.getD id .empty

def fill (nodes : Nodes) (id : NodeId) (body : NodeBody) : Nodes :=
  nodes.modify id fun n => { n with body }

end Nodes

/-- A document: its nodes, and the number of the outermost one. -/
structure Tree where
  nodes : Nodes
  root : NodeId

/-- The tokens that are left, why there are no more of them, the nodes so far, those that have a
name, and the abbreviations of tags. -/
structure Draft where
  tokens : List Token
  fault : Error
  nodes : Nodes := #[]
  named : List (String × NodeId) := []
  handles : List (String × String) := []

abbrev Building (α : Type) := StateT Draft (Except Error) α

namespace Building

def giveUp {α : Type} (fault : DocumentFault) : Building α := throw (.document fault)

def peek : Building Token := do
  let d ← get
  match d.tokens with
  | t :: _ => return t
  | [] => throw d.fault

def pass : Building Unit := modify fun d => { d with tokens := d.tokens.drop 1 }

/-- Goes past the next token if it is this one, and tells whether it is. -/
def passes (t : Token) : Building Bool := do
  if (← peek) = t then
    pass
    return true
  return false

def isNext (ts : List Token) : Building Bool := return ts.contains (← peek)

def add (node : Node) : Building NodeId :=
  modifyGet fun d => (d.nodes.size, { d with nodes := d.nodes.push node })

/-- A node, unless one of these tokens comes next and the place is empty. -/
def orEmpty (ts : List Token) (node : Building NodeId) : Building NodeId := do
  if ← isNext ts then add .empty else node

/-! ## Collections, with a way to build their parts -/

/-- The items of a block, each after a dash. -/
def items (part : Building NodeId) : Nat → Building (List NodeId)
  | 0 => giveUp .grammar
  | count + 1 => do
    if ← passes .item then
      let head ← orEmpty [.item, .blockEnd] part
      return head :: (← items part count)
    else if ← passes .blockEnd then return []
    else giveUp .grammar

/-- The items of a block that is not indented further than the mapping around it. -/
def itemsInMapping (part : Building NodeId) : Nat → Building (List NodeId)
  | 0 => giveUp .grammar
  | count + 1 => do
    if ← passes .item then
      let head ← orEmpty [.item, .key, .value, .blockEnd] part
      return head :: (← itemsInMapping part count)
    else return []

def entries (part : Building NodeId) : Nat → Building (List Entry)
  | 0 => giveUp .grammar
  | count + 1 => do
    let ends : List Token := [.key, .value, .blockEnd]
    if ← passes .key then
      let key ← orEmpty ends part
      let value ← if ← passes .value then orEmpty ends part else add .empty
      return (key, value) :: (← entries part count)
    else if ← passes .blockEnd then return []
    else giveUp .grammar

/-- The value of an entry in brackets, which may be missing; `close` is the bracket at the end. -/
def valueInBrackets (part : Building NodeId) (close : Token) : Building NodeId := do
  if ← passes .value then orEmpty [.comma, close] part else add .empty

/-- The items in brackets. An entry among them is a mapping of its own. -/
def itemsInBrackets (part : Building NodeId) : Nat → Bool → Building (List NodeId)
  | 0, _ => giveUp .grammar
  | count + 1, isFirst => do
    if ← passes .sequenceClose then return []
    if !isFirst then
      if !(← passes .comma) then giveUp .grammar
    if ← passes .key then
      let key ← orEmpty [.value, .comma, .sequenceClose] part
      let value ← valueInBrackets part .sequenceClose
      let head ← add ⟨.mapping, .mapping [(key, value)]⟩
      return head :: (← itemsInBrackets part count false)
    else if ← passes .sequenceClose then return []
    else
      let head ← part
      return head :: (← itemsInBrackets part count false)

/-- The entries in brackets. A node that is no key has no value. -/
def entriesInBrackets (part : Building NodeId) : Nat → Bool → Building (List Entry)
  | 0, _ => giveUp .grammar
  | count + 1, isFirst => do
    if ← passes .mappingClose then return []
    if !isFirst then
      if !(← passes .comma) then giveUp .grammar
    if ← passes .key then
      let key ← orEmpty [.value, .comma, .mappingClose] part
      let value ← valueInBrackets part .mappingClose
      return (key, value) :: (← entriesInBrackets part count false)
    else if ← passes .mappingClose then return []
    else
      let key ← part
      let value ← add .empty
      return (key, value) :: (← entriesInBrackets part count false)

/-! ## Labels -/

/-- The anchor that comes next, if one does. -/
def anchor? : Building (Option String) := do
  match ← peek with
  | .anchor name => pass; return some name
  | _ => return none

/-- The tag that comes next, if one does. -/
def tag? : Building (Option TagText) := do
  match ← peek with
  | .tag t => pass; return some t
  | _ => return none

/-- The anchor and the tag of a node, in either order. -/
def labels : Building (Option String × Option TagText) := do
  match ← anchor? with
  | some name => return (some name, ← tag?)
  | none =>
    match ← tag? with
    | some t => return (← anchor?, some t)
    | none => return (none, none)

def fullTag (t : TagText) : Building String := do
  match t.handle with
  | none => return t.suffix
  | some handle =>
    match (← get).handles.lookup handle with
    | some written => return written ++ t.suffix
    | none => giveUp .grammar

/-- Takes a name for a node; no name is taken twice. -/
def take (name : Option String) (id : NodeId) : Building Unit := do
  match name with
  | none => return
  | some name =>
    if ((← get).named.lookup name).isSome then giveUp .reference
    modify fun d => { d with named := (name, id) :: d.named }

/-- A new node with a name, if it has one. -/
def addNamed (name : Option String) (node : Node) : Building NodeId := do
  let id ← add node
  take name id
  return id

/-- A collection, whose name is known inside. -/
def collection (name : Option String) (sort : NodeSort) (parts : Building NodeBody) :
    Building NodeId := do
  let id ← addNamed name ⟨sort, .sequence []⟩
  let body ← parts
  modify fun d => { d with nodes := d.nodes.fill id body }
  return id

/-! ## Nodes -/

/-- Where a node stands: between brackets, in a block, or as key or value of a block, where items
need no indentation. -/
inductive Room
  | brackets
  | block
  | entry
  deriving DecidableEq, Repr

/-- The sort of a scalar: that of its tag, or the one that it looks like. A tag without a name
makes every scalar one that is looked at. -/
def scalarSort (tag : Option String) (text : String) (isPlain : Bool) : NodeSort :=
  match tag with
  | some "!" => .ofPlain looksLikeInstant text
  | some t => .ofTag t
  | none => if isPlain then .ofPlain looksLikeInstant text else .text

def collectionSort (tag : Option String) (untagged : NodeSort) : NodeSort :=
  match tag with
  | some "!" => untagged
  | some t => .ofTag t
  | none => untagged

def mostLevels : Nat := 490

/-- A node. The first argument is the number of levels left, the second bounds the number of its
parts. -/
def node : Nat → Nat → Room → Building NodeId
  | 0, _, _ => throw (.misuse .endless)
  | levels + 1, count, room => do
    match ← peek with
    | .alias name =>
      pass
      match (← get).named.lookup name with
      | some id => return id
      | none => giveUp .reference
    | _ =>
      let (name, tag) ← labels
      let tag ← tag.mapM fullTag
      let inBlock := node levels count .block
      let inEntry := node levels count .entry
      let inBrackets := node levels count .brackets
      let sequence (items : Building (List NodeId)) : Building NodeId :=
        collection name (collectionSort tag .sequence) (NodeBody.sequence <$> items)
      let mapping (entries : Building (List Entry)) : Building NodeId :=
        collection name (collectionSort tag .mapping) (NodeBody.mapping <$> entries)
      match ← peek with
      | .scalar text isPlain =>
        pass
        addNamed name ⟨scalarSort tag text isPlain, .scalar text⟩
      | .sequenceOpen =>
        pass
        sequence (itemsInBrackets inBrackets count true)
      | .mappingOpen =>
        pass
        mapping (entriesInBrackets inBrackets count true)
      | .item =>
        if room = .entry then sequence (itemsInMapping inBlock count) else emptyNode name tag
      | .blockSequence =>
        if room = .brackets then emptyNode name tag
        else
          pass
          sequence (items inBlock count)
      | .blockMapping =>
        if room = .brackets then emptyNode name tag
        else
          pass
          mapping (entries inEntry count)
      | _ => emptyNode name tag
where
  /-- A node with labels and nothing else. -/
  emptyNode (name tag : Option String) : Building NodeId := do
    if name.isNone && tag.isNone then giveUp .grammar
    addNamed name ⟨scalarSort tag "" tag.isNone, .scalar ""⟩

/-! ## Documents -/

/-- The directives before a document, with the abbreviations of tags that they make. Of the
versions only the first is known. -/
def directives : Nat → Bool → Building Unit
  | 0, _ => giveUp .grammar
  | count + 1, versionSeen => do
    match ← peek with
    | .directive (.version major _) =>
      pass
      if versionSeen || major ≠ 1 then giveUp .grammar
      directives count true
    | .directive (.abbreviation handle written) =>
      pass
      if ((← get).handles.lookup handle).isSome then giveUp .grammar
      modify fun d => { d with handles := (handle, written) :: d.handles }
      directives count versionSeen
    | .directive .other =>
      pass
      directives count versionSeen
    | _ => return

/-- Adds the abbreviations of tags that are always there. -/
def addHandles : Building Unit :=
  modify fun d => { d with handles := d.handles ++ [("!", "!"), ("!!", NodeSort.family)] }

/-- Goes past marks at the end of a document. -/
def passEnds : Nat → Building Unit
  | 0 => return
  | count + 1 => do if ← passes .documentEnd then passEnds count

/-- The beginning of a document, directives included; false if the text ends instead. -/
def begin (count : Nat) : Building Bool := do
  passEnds count
  if ← isNext [.textEnd] then return false
  directives count false
  addHandles
  if ← passes .documentStart then return true
  giveUp .grammar

def isDirectiveNext : Building Bool := do
  match ← peek with
  | .directive _ => return true
  | _ => return false

/-- The only document of a text, if there is one. -/
def single (count : Nat) : Building (Option Tree) := do
  let isMarked := (← isDirectiveNext) || (← isNext [.documentStart, .textEnd])
  let there ←
    if isMarked then begin count
    else do
      addHandles
      pure true
  if !there then return none
  let isEmpty := isMarked
    && ((← isDirectiveNext) || (← isNext [.documentStart, .documentEnd, .textEnd]))
  let root ← if isEmpty then add .empty else node mostLevels count .block
  modify fun d => { d with handles := [] }
  if ← begin count then giveUp .reference
  return some ⟨(← get).nodes, root⟩

end Building

/-- The document of a text, if it is not empty. -/
def treeOf (text : List Char) : Result (Option Tree) :=
  let (tokens, fault) := tokensOf text
  (Building.single (tokens.length + 2)).run' { tokens, fault }

end Document

end TypedQuery
