import TypedQuery.Document.Label

/-!
The tokens of a document: what its characters say one after the other, with marks for where
blocks begin and end and where keys stand. A key is only known by the colon behind it, so that
its mark is put in afterwards; it has to be on one line with the colon, and not too long.
-/
set_option autoImplicit false

namespace TypedQuery

namespace Document

inductive Token
  | directive (d : Directive)
  | documentStart
  | documentEnd
  | blockSequence
  | blockMapping
  | blockEnd
  | sequenceOpen
  | sequenceClose
  | mappingOpen
  | mappingClose
  /-- A dash before an item. -/
  | item
  | comma
  | key
  | value
  | alias (name : String)
  | anchor (name : String)
  | tag (t : TagText)
  | scalar (text : String) (isPlain : Bool)
  | textEnd
  deriving DecidableEq, Repr

/-- A token that is the beginning of a key if a colon follows. -/
structure Candidate where
  /-- How many tokens come before. -/
  number : Nat
  /-- The block that the token stands in has nothing but keys at this column. -/
  required : Bool
  index : Nat
  line : Nat
  column : Nat

/-- The tokens read so far, and what decides about the next ones. -/
structure Scan where
  place : Cursor
  /-- The length of the whole text. -/
  bound : Nat
  /-- The tokens, the last one first. -/
  tokens : List Token := []
  /-- How many tokens there are. -/
  count : Nat := 0
  /-- How many brackets are open. -/
  depth : Int := 0
  /-- The column of the innermost block. -/
  indent : Int := -1
  /-- The columns of the blocks around it. -/
  outer : List Int := []
  /-- The candidates by the number of brackets open. -/
  candidates : List (Int × Candidate) := []
  /-- May a key begin here? -/
  keyAllowed : Bool := true

namespace Scan

def inFlow (s : Scan) : Bool := s.depth ≠ 0

/-- A scan with one more token, at a later place. -/
def push (s : Scan) (t : Token) (place : Cursor) : Scan :=
  { s with tokens := t :: s.tokens, count := s.count + 1, place }

/-- A scan with one more token that is the next character. -/
def pushNext (s : Scan) (t : Token) : Scan := s.push t s.place.next

/-- A scan with a token put in behind the first `number` ones. -/
def insert (s : Scan) (number : Nat) (t : Token) : Scan :=
  let later := s.count - number
  { s with tokens := s.tokens.take later ++ t :: s.tokens.drop later, count := s.count + 1 }

/-- The first `number` tokens, in order. -/
def firstTokens (s : Scan) (number : Nat) : List Token :=
  (s.tokens.drop (s.count - number)).reverse

/-! ## Candidates for keys -/

/-- The most characters from the beginning of a key to its colon. -/
def longestKey : Nat := 1024

/-- Can the candidate not be a key any more? -/
def isStale (place : Cursor) (c : Candidate) : Bool :=
  c.line ≠ place.line || longestKey < place.index - c.index

/-- A scan without the candidates that cannot be keys any more. Those that have to be are
missed. -/
def dropStale (s : Scan) : Result Scan :=
  let stale := s.candidates.filter fun e => isStale s.place e.2
  if stale.any fun e => e.2.required then refuse .token
  else .ok { s with candidates := s.candidates.filter fun e => !isStale s.place e.2 }

/-- A scan without the candidate inside the innermost brackets. -/
def forget (s : Scan) : Result Scan :=
  match s.candidates.lookup s.depth with
  | none => .ok s
  | some c =>
    if c.required then refuse .token
    else .ok { s with candidates := s.candidates.filter fun e => e.1 ≠ s.depth }

/-- A scan with the next token as a candidate, if a key may begin there. -/
def propose (s : Scan) : Result Scan :=
  if !s.keyAllowed then .ok s
  else do
    let s ← s.forget
    let candidate : Candidate := {
      number := s.count
      required := !s.inFlow && s.indent = s.place.column
      index := s.place.index, line := s.place.line, column := s.place.column }
    return { s with candidates := s.candidates ++ [(s.depth, candidate)] }

/-- How many tokens are certain: those before all candidates. -/
def certain (s : Scan) : Nat := s.candidates.foldl (fun n e => min n e.2.number) s.count

/-! ## Blocks -/

/-- The ends of the blocks that are indented further than a column, with the column of the
innermost block left and those around it. -/
def closing (column : Int) : Int → List Int → Nat × Int × List Int
  | indent, [] => (0, indent, [])
  | indent, next :: outer =>
    if column < indent then
      let (count, found) := closing column next outer
      (count + 1, found)
    else (0, indent, next :: outer)

/-- A scan with all blocks ended that are indented further than a column. Within brackets no
block ends. -/
def close (s : Scan) (column : Int) : Scan :=
  if s.inFlow then s
  else
    let (count, indent, outer) := closing column s.indent s.outer
    { s with
      tokens := List.replicate count .blockEnd ++ s.tokens
      count := s.count + count, indent, outer }

/-- A scan with a new block at a column, if that is further in than the block around; its mark is
put in before the tokens from `number` on. -/
def openBlock (s : Scan) (column number : Nat) (t : Token) : Scan :=
  if s.indent < column then
    { s.insert number t with indent := column, outer := s.indent :: s.outer }
  else s

/-! ## Single tokens -/

def boundary (s : Scan) (t : Token) : Result Scan := do
  let s ← (s.close (-1)).forget
  return { s.push t (s.place.skip 3) with keyAllowed := false }

def directive (s : Scan) : Result Scan := do
  let s ← (s.close (-1)).forget
  let (d, rest) ← readDirective s.place.rest
  return { s.push (.directive d) (s.place.upTo rest) with keyAllowed := false }

def textEnd (s : Scan) : Result Scan := do
  let s ← (s.close (-1)).forget
  return s.push .textEnd s.place

def openBracket (s : Scan) (t : Token) : Result Scan := do
  let s ← s.propose
  return { s.pushNext t with depth := s.depth + 1, keyAllowed := true }

def closeBracket (s : Scan) (t : Token) : Result Scan := do
  let s ← s.forget
  return { s.pushNext t with depth := s.depth - 1, keyAllowed := false }

def comma (s : Scan) : Result Scan := do
  let s ← s.forget
  return { s.pushNext .comma with keyAllowed := true }

/-- A scan with a block at the place, where a token that belongs to a block may stand. -/
def enterBlock (s : Scan) (t : Token) : Result Scan :=
  if s.inFlow then .ok s
  else if s.keyAllowed then .ok (s.openBlock s.place.column s.count t)
  else refuse .token

def item (s : Scan) : Result Scan := do
  let s ← (← s.enterBlock .blockSequence).forget
  return { s.pushNext .item with keyAllowed := true }

def key (s : Scan) : Result Scan := do
  let s ← (← s.enterBlock .blockMapping).forget
  return { s.pushNext .key with keyAllowed := !s.inFlow }

/-- The colon before a value. It makes a key of the candidate before it, or else stands for a key
of its own. -/
def value (s : Scan) : Result Scan := do
  match s.candidates.lookup s.depth with
  | some c =>
    let s := { s with candidates := s.candidates.filter fun e => e.1 ≠ s.depth }
    let s := s.insert c.number .key
    let s := if s.inFlow then s else s.openBlock c.column c.number .blockMapping
    return { s.pushNext .value with keyAllowed := false }
  | none =>
    let s ← (← s.enterBlock .blockMapping).forget
    return { s.pushNext .value with keyAllowed := !s.inFlow }

/-- A token that may begin a key, as a reader reads it from behind its mark on. -/
def word (s : Scan) (read : List Char → Result (Token × List Char)) : Result Scan := do
  let s ← s.propose
  let (t, rest) ← read s.place.rest
  return { s.push t (s.place.upTo rest) with keyAllowed := false }

def quoted (s : Scan) (double : Bool) : Result Scan :=
  s.word fun cs => do
    let (numbers, rest) ← readQuoted double (s.bound + 1) (cs.drop 1)
    return (.scalar (String.ofList (charsOf numbers)) false, rest)

def block (s : Scan) (isFolded : Bool) : Result Scan := do
  let s ← s.forget
  let (chars, rest) ← readBlock isFolded s.indent (s.place.rest.drop 1)
  return { s.push (.scalar (String.ofList chars) false) (s.place.upTo rest) with
    keyAllowed := true }

def plain (s : Scan) : Result Scan := do
  let s ← s.propose
  let found ← readPlain s.bound s.inFlow s.indent s.place
  return { s.push (.scalar (String.ofList found.chars) true) found.place with
    keyAllowed := found.brokeLine }

/-- Looks at what follows the next character, as far as that decides which token begins there. -/
def lookAhead (s : Scan) : Result Unit := do
  let c := s.place.char
  if s.place.column = 0 && (c = '-' || c = '.') then
    let _ ← lookForBoundary s.place.rest
  let isOpen :=
    c = '-' || (!s.inFlow && (c = '?' || c = ':')) || (s.inFlow && (c = '|' || c = '>'))
      || (s.place.column ≠ 0 && c = '%') || "@\x60\t".toList.contains c
  if isOpen then
    let _ ← look (s.place.rest.drop 1)

/-- The token that begins at the place, with nothing more looked at. -/
def tokenHere (s : Scan) : Result Scan :=
  let cs := s.place.rest
  let c := first cs
  let alone := endsWord (first (cs.drop 1))
  let labelled (read : List Char → Result (String × List Char)) (make : String → Token) :=
    s.word fun cs => do
      let (name, rest) ← read (cs.drop 1)
      return (make name, rest)
  if s.place.column = 0 && c = '%' then s.directive
  else if s.place.column = 0 && atBoundary cs then
    s.boundary (if c = '-' then .documentStart else .documentEnd)
  else if c = '[' then s.openBracket .sequenceOpen
  else if c = '\x7b' then s.openBracket .mappingOpen
  else if c = ']' then s.closeBracket .sequenceClose
  else if c = '\x7d' then s.closeBracket .mappingClose
  else if c = ',' then s.comma
  else if c = '-' && alone then s.item
  else if c = '?' && (s.inFlow || alone) then s.key
  else if c = ':' && (s.inFlow || alone) then s.value
  else if c = '*' then labelled readAnchor .alias
  else if c = '&' then labelled readAnchor .anchor
  else if c = '!' then
    s.word fun cs => do
      let (tag, rest) ← readTag cs
      return (.tag tag, rest)
  else if c = '|' && !s.inFlow then s.block false
  else if c = '>' && !s.inFlow then s.block true
  else if c = '\x27' then s.quoted false
  else if c = '\x22' then s.quoted true
  else if beginsPlain s.inFlow cs then s.plain
  else refuse .token

/-- The token that begins at the place. The character behind it has to be there. -/
def token (s : Scan) : Result Scan := do
  s.lookAhead
  let next ← s.tokenHere
  let _ ← look next.place.rest
  return next

/-- A scan at the next character that says something, with the blocks ended that end there. A new
line outside brackets may begin with a key. -/
def advance (s : Scan) : Result Scan := do
  let start :=
    if s.place.index = 0 && s.place.char = orderMark then s.place.next else s.place
  let (brokeLine, length) := gapsLength false start.rest
  let place := start.skip length
  let _ ← look place.rest
  let s := { s with place, keyAllowed := s.keyAllowed || (brokeLine && !s.inFlow) }
  let s ← s.dropStale
  return s.close s.place.column

/-- The tokens that can be read, and why the next one cannot. What is not certain when something
is refused counts as not read. The first argument bounds the number of tokens, the second is the
number of those that were certain before. -/
def readTokens : Nat → Nat → Scan → List Token × Error
  | 0, _, s => (s.firstTokens s.count, .document .token)
  | count + 1, before, s =>
    match s.dropStale with
    | .error e => (s.firstTokens before, e)
    | .ok s =>
      match s.advance with
      | .error e => (s.firstTokens s.certain, e)
      | .ok next =>
        if next.place.rest.isEmpty then
          match next.textEnd with
          | .error e => (s.firstTokens s.certain, e)
          | .ok done => (done.firstTokens done.count, .document .token)
        else
          match next.token with
          | .error e => (s.firstTokens s.certain, e)
          | .ok next => readTokens count s.certain next

end Scan

/-- The tokens of a text, and why there are no more of them. -/
def tokensOf (text : List Char) : List Token × Error :=
  Scan.readTokens (text.length + 1) 0 { place := { rest := text }, bound := text.length }

end Document

end TypedQuery
