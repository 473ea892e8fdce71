import TypedQuery.Value.Access

/-!
A place in the text of a document. The text has lines; besides the plain line break there are
three more characters that end a line, and two of those are kept as they are where a line break
is part of a scalar. Beyond the end of the text stands a character that no text holds, and
another one stands where the text cannot be read on.
-/
set_option autoImplicit false

namespace TypedQuery

namespace Document

/-! ## Characters -/

def isAllowed (c : Char) : Bool :=
  inRanges c [(0x9, 0xa), (0x20, 0x7e), (0x85, 0x85), (0xa0, 0xd7ff), (0xe000, 0xfffd),
    (0x10000, 0x10ffff)]

/-- Characters in which every line break of two characters, or of the older kind, is a plain one. -/
def withPlainBreaks : List Char → List Char
  | [] => []
  | '\r' :: '\n' :: rest => '\n' :: withPlainBreaks rest
  | '\r' :: rest => '\n' :: withPlainBreaks rest
  | c :: rest => c :: withPlainBreaks rest

/-- The character beyond the end. -/
def endMark : Char := '\x00'

/-- The character where a text cannot be read on. -/
def barrier : Char := '\x01'

/-- The mark of the byte order, which takes no room. -/
def orderMark : Char := '\ufeff'

def isBreak (c : Char) : Bool := c = '\n' || c = '\u0085' || c = '\u2028' || c = '\u2029'

/-- A line break as it counts in a scalar. -/
def breakChar (c : Char) : Char := if c = '\u0085' then '\n' else c

def endsLine (c : Char) : Bool := c = endMark || c = barrier || isBreak c

def isGap (c : Char) : Bool := c = ' ' || c = '\t'

def endsWord (c : Char) : Bool := isGap c || endsLine c

def first (cs : List Char) : Char := cs.headD endMark

/-- A computation that fails for what is wrong with a document. -/
def refuse {α : Type} (fault : DocumentFault) : Result α := .error (.document fault)

/-! ## Looking ahead -/

/-- The first of the characters, which fails where the text cannot be read on. -/
def look (cs : List Char) : Result Char :=
  if first cs = barrier then refuse .character else .ok (first cs)

/-- Does a mark between documents, three dashes or three dots, stand at the beginning? -/
def atBoundary (cs : List Char) : Bool :=
  match cs with
  | '-' :: '-' :: '-' :: rest => endsWord (first rest)
  | '.' :: '.' :: '.' :: rest => endsWord (first rest)
  | _ => false

/-- The same question with a look at what decides it: three characters always, and a fourth one
behind three dashes or dots. -/
def lookForBoundary (cs : List Char) : Result Bool :=
  let window := cs.take (if ["---".toList, "...".toList].contains (cs.take 3) then 4 else 3)
  if window.contains barrier then refuse .character else .ok (atBoundary cs)

/-- The part of a text that can be read. A text comes in blocks, and a block with a character that
no document may hold cannot be read: a barrier stands in its place. Where that is the first block
there is nothing to read. -/
def readablePart (firstBlock laterBlock : Nat) (text : List Char) : Result (List Char) :=
  match text.findIdx? fun c => !isAllowed c with
  | none => .ok text
  | some n =>
    if n < firstBlock then refuse .character
    else
      let whole := firstBlock + (n - firstBlock) / laterBlock * laterBlock
      .ok (text.take whole ++ [barrier])

/-! ## Places -/

/-- A place in a text: what follows, how many characters were passed, and line and column. -/
structure Cursor where
  rest : List Char
  index : Nat := 0
  line : Nat := 0
  column : Nat := 0

namespace Cursor

def char (c : Cursor) : Char := first c.rest

def next (c : Cursor) : Cursor :=
  match c.rest with
  | [] => c
  | ch :: rest =>
    if isBreak ch then ⟨rest, c.index + 1, c.line + 1, 0⟩
    else ⟨rest, c.index + 1, c.line, if ch = orderMark then c.column else c.column + 1⟩

def skip (c : Cursor) : Nat → Cursor
  | 0 => c
  | count + 1 => c.next.skip count

/-- The place from which on the text is this rest of it. -/
def upTo (c : Cursor) (rest : List Char) : Cursor := c.skip (c.rest.length - rest.length)

end Cursor

/-- How many characters stand before the next one that is no space, remark or line break, and
whether a line ends among them. -/
def gapsLength (inRemark : Bool) : List Char → Bool × Nat
  | [] => (false, 0)
  | c :: rest =>
    if isBreak c then (true, (gapsLength false rest).2 + 1)
    else if (inRemark && !endsLine c) || c = '#' then
      let (brokeLine, length) := gapsLength true rest
      (brokeLine, length + 1)
    else if c = ' ' then
      let (brokeLine, length) := gapsLength false rest
      (brokeLine, length + 1)
    else (false, 0)

/-- The characters after a remark that may end a line, which has to end then. -/
def afterLine (cs : List Char) : Result (List Char) := do
  let rest := cs.dropWhile (· = ' ')
  let rest := if first rest = '#' then rest.dropWhile fun c => !endsLine c else rest
  if endsLine (← look rest) then return rest.drop 1
  refuse .token

end Document

end TypedQuery
