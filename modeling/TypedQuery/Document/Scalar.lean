import TypedQuery.Document.Cursor

/-!
Scalars as they are written: plain, in single or double quotes, or as a block of lines. Where a
scalar goes over several lines, a single line break between them counts as a space, and of several
ones the first does not count.
-/
set_option autoImplicit false

namespace TypedQuery

namespace Document

/-! ## Folding -/

/-- What a line break and the further ones after it count as. -/
def folded (lineBreak : Char) (further : List Char) : List Char :=
  if lineBreak ≠ '\n' then lineBreak :: further
  else if further.isEmpty then [' ']
  else further

/-! ## Plain scalars -/

def beginsPlain (inFlow : Bool) (cs : List Char) : Bool :=
  match cs with
  | [] => false
  | c :: rest =>
    if endsWord c then false
    else if c = '-' then !endsWord (first rest)
    else if c = '?' || c = ':' then !inFlow && !endsWord (first rest)
    else !(",[]\x7b\x7d#&*!|>\x27\x22%@\x60".toList.contains c)

/-- Does a character end a plain scalar, with what follows it? -/
def endsPlain (inFlow : Bool) (c : Char) (rest : List Char) : Result Bool := do
  let marks := ",[]\x7b\x7d".toList
  if endsWord c || (inFlow && (c = '?' || marks.contains c)) then return true
  if c ≠ ':' then return false
  let next ← look rest
  return endsWord next || (inFlow && marks.contains next)

/-- The run of characters up to the next gap or the end of a plain scalar. -/
def plainRun (inFlow : Bool) : List Char → Result (List Char)
  | [] => .ok []
  | c :: rest => do
    if ← endsPlain inFlow (← look [c]) rest then return []
    return c :: (← plainRun inFlow rest)

/-- The line breaks and spaces up to the next line that says something: the breaks, and how many
characters all are. A boundary between documents is no such line. -/
def plainBreaks : List Char → Result (Option (List Char) × Nat)
  | [] => .ok (some [], 0)
  | c :: rest => do
    if c = ' ' then
      let (breaks, length) ← plainBreaks rest
      return (breaks, length + 1)
    else if isBreak c then
      if ← lookForBoundary rest then return (none, 1)
      let (breaks, length) ← plainBreaks rest
      return (breaks.map (breakChar c :: ·), length + 1)
    else return (some [], 0)

/-- What comes after a run of a plain scalar: what it counts as, whether a line ends in it, and its
length. Where it counts as nothing the scalar ends. -/
structure Gap where
  chars : List Char
  brokeLine : Bool
  length : Nat

/-- The gap after a run of a plain scalar. -/
def plainGap (cs : List Char) : Result Gap := do
  let spaces := cs.takeWhile (· = ' ')
  let wide (length : Nat) : Nat := spaces.length + length
  match cs.dropWhile (· = ' ') with
  | [] => return ⟨spaces, false, wide 0⟩
  | c :: rest =>
    if !isBreak c then return ⟨spaces, false, wide 0⟩
    if ← lookForBoundary rest then return ⟨[], true, wide 1⟩
    match ← plainBreaks rest with
    | (some further, length) => return ⟨folded (breakChar c) further, true, wide (length + 1)⟩
    | (none, length) => return ⟨[], true, wide (length + 1)⟩

/-- A plain scalar or the rest of one: its characters, whether a line ended after the last run, and
the place reached. -/
structure PlainScalar where
  chars : List Char
  brokeLine : Bool
  place : Cursor

/-- Reads on in a plain scalar after a gap, for at most so many runs. Outside brackets the lines
have to be indented. -/
def readPlainRuns (inFlow : Bool) (indent : Int) : Nat → Gap → Cursor → Result PlainScalar
  | 0, before, place => .ok ⟨[], before.brokeLine, place⟩
  | count + 1, before, place => do
    let run ← if place.char = '#' then pure [] else plainRun inFlow place.rest
    if run.isEmpty then return ⟨[], before.brokeLine, place⟩
    let afterRun := place.skip run.length
    let gap ← plainGap afterRun.rest
    let next := afterRun.skip gap.length
    if gap.chars.isEmpty || (!inFlow && (next.column : Int) ≤ indent) then
      return ⟨before.chars ++ run, gap.brokeLine, next⟩
    let more ← readPlainRuns inFlow indent count gap next
    return { more with chars := before.chars ++ run ++ more.chars }

/-- Reads a plain scalar of at most so many characters. -/
def readPlain (bound : Nat) (inFlow : Bool) (indent : Int) (place : Cursor) : Result PlainScalar :=
  readPlainRuns inFlow indent bound ⟨[], false, 0⟩ place

/-! ## Quoted scalars -/

/-- The character that a letter behind a backslash stands for. -/
def escaped? : Char → Option Char
  | '0' => some '\x00'
  | 'a' => some '\x07'
  | 'b' => some '\x08'
  | 't' => some '\t'
  | '\t' => some '\t'
  | 'n' => some '\n'
  | 'v' => some '\x0b'
  | 'f' => some '\x0c'
  | 'r' => some '\r'
  | 'e' => some '\x1b'
  | ' ' => some ' '
  | '\x22' => some '\x22'
  | '/' => some '/'
  | '\\' => some '\\'
  | 'N' => some '\u0085'
  | '_' => some '\u00a0'
  | 'L' => some '\u2028'
  | 'P' => some '\u2029'
  | _ => none

/-- How many hexadecimal digits follow a letter behind a backslash. -/
def escapeWidth : Char → Nat
  | 'x' => 2
  | 'u' => 4
  | 'U' => 8
  | _ => 0

/-- The number that the next `count` characters write, all of them hexadecimal digits, after
digits that write another one. -/
def hexNumber (before : Nat) : Nat → List Char → Result Nat
  | 0, _ => .ok before
  | count + 1, cs => do
    match hexValue? (← look cs) with
    | some digit => hexNumber (16 * before + digit) count (cs.drop 1)
    | none => refuse .token

/-- The number of a character, as it is written. There are no characters beyond the last one, and
numbers of more than 31 bits are not even looked at. -/
def charNumber (n : Nat) : Result Nat :=
  if Nat.pow 2 31 ≤ n then .error (.misuse .overflow)
  else if 0x10ffff < n then .error (.misuse .badValue)
  else .ok n

def numbersOf (cs : List Char) : List Nat := cs.map Char.toNat

/-- Is this the first half of a character that is written as two numbers? -/
def isFirstHalf (n : Nat) : Bool := 0xd800 ≤ n && n < 0xdc00

/-- Is this the second half of such a character? -/
def isSecondHalf (n : Nat) : Bool := 0xdc00 ≤ n && n < 0xe000

/-- The characters with these numbers, two halves together making one. A half alone is no
character. -/
def charsOf : List Nat → List Char
  | [] => []
  | [n] => [charOf n]
  | m :: n :: rest =>
    if isFirstHalf m && isSecondHalf n then
      Char.ofNat (0x10000 + 0x400 * (m - 0xd800) + (n - 0xdc00)) :: charsOf rest
    else charOf m :: charsOf (n :: rest)
where
  /-- The character with a number, which a mark stands for if there is none. -/
  charOf (n : Nat) : Char := if n.isValidChar then Char.ofNat n else '\ufffd'

/-- The line breaks after a first one in a quoted scalar, and what follows. No boundary between
documents may be among the lines. -/
def quotedBreaks : Nat → List Char → Result (List Char × List Char)
  | 0, _ => refuse .token
  | count + 1, cs => do
    if ← lookForBoundary cs then refuse .token
    match cs.dropWhile isGap with
    | c :: rest =>
      if !isBreak c then return ([], c :: rest)
      let (breaks, left) ← quotedBreaks count rest
      return (breakChar c :: breaks, left)
    | [] => return ([], [])

/-- The numbers of the characters that something behind a backslash in double quotes stands for,
and the rest. The first argument bounds the number of lines. -/
def readEscape (bound : Nat) (cs : List Char) : Result (List Nat × List Char) := do
  let letter ← look cs
  let rest := cs.drop 1
  match escaped? letter, escapeWidth letter with
  | some c, _ => return ([c.toNat], rest)
  | none, 0 =>
    if !isBreak letter then refuse .token
    let (breaks, left) ← quotedBreaks bound rest
    return (numbersOf breaks, left)
  | none, width => return ([← charNumber (← hexNumber 0 width rest)], rest.drop width)

/-- The numbers of the characters of a quoted scalar up to its closing quote, and what follows. The
second argument bounds the number of characters. -/
def readQuoted (double : Bool) : Nat → List Char → Result (List Nat × List Char)
  | 0, _ => refuse .token
  | count + 1, cs => do
    let onward (piece : List Nat) (rest : List Char) : Result (List Nat × List Char) := do
      let (numbers, left) ← readQuoted double count rest
      return (piece ++ numbers, left)
    let c ← look cs
    let rest := cs.drop 1
    if cs.isEmpty then refuse .token
    else if isGap c || isBreak c then
      match cs.dropWhile isGap with
      | [] => refuse .token
      | next :: after =>
        if isBreak next then
          let (further, left) ← quotedBreaks (count + 1) after
          onward (numbersOf (folded (breakChar next) further)) left
        else onward (numbersOf (cs.takeWhile isGap)) (next :: after)
    else if double && c = '\\' then
      let (piece, left) ← readEscape (count + 1) rest
      onward piece left
    else if double && c = '\x22' then return ([], rest)
    else if !double && c = '\x27' then
      if first rest = '\x27' then onward [c.toNat] (rest.drop 1) else return ([], rest)
    else onward [c.toNat] rest

/-! ## Blocks of lines -/

/-- What is kept of the line breaks after the last line of a block. -/
inductive BlockEnd
  | one
  | none
  | all
  deriving DecidableEq, Repr

/-- What a sign in the head of a block says about its end. -/
def blockEnd? (c : Char) : Option BlockEnd :=
  if c = '+' then some .all else if c = '-' then some .none else none

/-- A digit other than zero in the head of a block, if there is a digit, and what follows. -/
def readBlockWidth (cs : List Char) : Result (Option Nat × List Char) := do
  let c ← look cs
  if c = '0' then refuse .token
  return if c.isDigit then (some (c.toNat - 48), cs.drop 1) else (none, cs)

/-- The head of a block: what its end keeps, how far it is indented, and what follows. The two may
come in either order. -/
def readBlockHead (cs : List Char) : Result (BlockEnd × Option Nat × List Char) := do
  let (found, indent, rest) ←
    match blockEnd? (← look cs) with
    | some found => do
      let (indent, rest) ← readBlockWidth (cs.drop 1)
      pure (found, indent, rest)
    | none => do
      let (indent, rest) ← readBlockWidth cs
      match indent, blockEnd? (← look rest) with
      | some n, some found => pure (found, some n, rest.drop 1)
      | indent, _ => pure (BlockEnd.one, indent, rest)
  let c ← look rest
  if c = ' ' || endsLine c then return (found, indent, ← afterLine rest)
  refuse .token

/-- The empty lines before the first line of a block: their breaks, the most spaces that one of
them or the first line has, the column reached, and what follows. -/
def blockIndentation (most : Nat) : Nat → List Char → List Char × Nat × Nat × List Char
  | column, [] => ([], most, column, [])
  | column, c :: rest =>
    if c = ' ' then blockIndentation (max most (column + 1)) (column + 1) rest
    else if isBreak c then
      let (breaks, found) := blockIndentation most 0 rest
      (breakChar c :: breaks, found)
    else ([], most, column, c :: rest)

/-- The empty lines between lines of a block: their breaks, the column reached, and what
follows. -/
def blockBreaks (indent : Nat) : Nat → List Char → List Char × Nat × List Char
  | column, [] => ([], column, [])
  | column, c :: rest =>
    if c = ' ' && column < indent then blockBreaks indent (column + 1) rest
    else if isBreak c then
      let (breaks, found) := blockBreaks indent 0 rest
      (breakChar c :: breaks, found)
    else ([], column, c :: rest)

/-- The lines of a block from the next one on, with the breaks before it: their characters, and
what follows the block. -/
def readBlockLines (isFolded : Bool) (ending : BlockEnd) (indent : Nat) :
    Nat → List Char → Nat → List Char → List Char × List Char
  | 0, _, _, cs => ([], cs)
  | count + 1, breaks, column, cs =>
    if column ≠ indent || cs.isEmpty then
      (if ending = .all then breaks else [], cs)
    else
      let line := cs.takeWhile fun c => !endsLine c
      let (lineBreak, after) :=
        match cs.dropWhile fun c => !endsLine c with
        | c :: rest => if isBreak c then ([breakChar c], rest) else ([], c :: rest)
        | [] => ([], [])
      let (further, column, left) := blockBreaks indent 0 after
      let goesOn := column = indent && !left.isEmpty
      let between :=
        if !goesOn then (if ending = .none then [] else lineBreak)
        else if isFolded && lineBreak = ['\n'] && !isGap (first line) && !isGap (first left) then
          (if further.isEmpty then [' '] else [])
        else lineBreak
      let (chars, left) := readBlockLines isFolded ending indent count further column left
      (breaks ++ line ++ between ++ chars, left)

/-- Reads a block of lines, from the character after its mark on. Its lines are indented further
than what is around them, by as much as the head says or as the first line is. -/
def readBlock (isFolded : Bool) (around : Int) (cs : List Char) :
    Result (List Char × List Char) := do
  let (ending, width, rest) ← readBlockHead cs
  let least := max (around + 1).toNat 1
  let (breaks, indent, column, rest) :=
    match width with
    | some n =>
      let indent := least + n - 1
      let (breaks, column, rest) := blockBreaks indent 0 rest
      (breaks, indent, column, rest)
    | none =>
      let (breaks, most, column, rest) := blockIndentation 0 0 rest
      (breaks, max least most, column, rest)
  return readBlockLines isFolded ending indent (rest.length + 1) breaks column rest

end Document

end TypedQuery
