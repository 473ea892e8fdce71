import TypedQuery.Query.Emission

/-! # Reading queries back

The query language as the store reads it, one character at a time. `step` is a machine whose places
say what may come next; groups that are still open wait on a stack. `readQuery` runs it over a whole
text. The grammar is that of the emission: items side by side all have to hold, bars in parentheses
make a choice, a dash before parentheses negates, and an item is a column with a clause. A backslash
takes the next character of a clause literally. -/

namespace TypedQuery
set_option autoImplicit false

/-! ## What a query says -/

structure QueryBound where
  inclusive : Bool
  token : String
  deriving DecidableEq, Repr

inductive Clause
  | tags (tags : List String)
  | phrase (text : String)
  | words (text : String)
  | interval (lower upper : QueryBound)
  | circle (longitude latitude radius unit : String)
  deriving DecidableEq, Repr

structure Leaf where
  column : String
  clause : Clause
  deriving DecidableEq, Repr

inductive Query
  | leaf (l : Leaf)
  | all (members : List Query)
  | any (members : List Query)
  | negation (member : Query)
  deriving Repr

/-- Members joined in one way; a single one stands for itself. -/
def Query.grouped (make : List Query → Query) : List Query → Query
  | [q] => q
  | qs => make qs

/-! ## Clauses -/

/-- A character of a clause, and whether a backslash stood before it. -/
structure Glyph where
  char : Char
  escaped : Bool
  deriving DecidableEq, Repr

inductive Delimiter
  | braces
  | quotes
  | parentheses
  | brackets
  deriving DecidableEq, Repr

namespace Delimiter

def opening : Delimiter → Char
  | .braces => '\x7b'
  | .quotes => '\x22'
  | .parentheses => '('
  | .brackets => '['

def closing : Delimiter → Char
  | .braces => '\x7d'
  | .quotes => '\x22'
  | .parentheses => ')'
  | .brackets => ']'

def ofOpening? (c : Char) : Option Delimiter :=
  [braces, quotes, parentheses, brackets].find? fun d => d.opening == c

end Delimiter

def textOf (gs : List Glyph) : String := String.ofList (gs.map Glyph.char)

/-- The texts between those occurrences of a character that have no backslash before them. -/
def partsAt (separator : Char) (gs : List Glyph) : List String :=
  (gs.splitOn ⟨separator, false⟩).map textOf

/-- A bound from its text: a parenthesis before the number excludes it. -/
def QueryBound.ofText (s : String) : QueryBound :=
  match s.toList with
  | '(' :: rest => ⟨false, String.ofList rest⟩
  | _ => ⟨true, s⟩

def Delimiter.clause? (d : Delimiter) (gs : List Glyph) : Option Clause :=
  match d with
  | .braces => some (.tags (partsAt '|' gs))
  | .quotes => some (.phrase (textOf gs))
  | .parentheses => some (.words (textOf gs))
  | .brackets =>
    match partsAt ' ' gs with
    | [lower, upper] => some (.interval (.ofText lower) (.ofText upper))
    | [longitude, latitude, radius, unit] => some (.circle longitude latitude radius unit)
    | _ => none

/-! ## Groups -/

/-- What a group is opened by: the start of the text, a parenthesis, or a dash and one. -/
inductive Opening
  | whole
  | parentheses
  | dash
  deriving DecidableEq, Repr

/-- What stands between the members of a group: a space, or a bar with a space on either side. -/
inductive Joint
  | gap
  | bar
  deriving DecidableEq, Repr

def Joint.make : Joint → List Query → Query
  | .gap => .all
  | .bar => .any

def Joint.text : Joint → String
  | .gap => " "
  | .bar => " | "

/-- A group that is still open: the joint between its members so far, and those before the one that
is being read, last first. -/
structure Group where
  opening : Opening
  joint : Option Joint := none
  before : List Query := []

namespace Group

/-- May a joint follow? A group has one kind of joint, and bars stand in parentheses only. -/
def admits (g : Group) (j : Joint) : Bool :=
  g.joint.all (· = j) && (j = .gap || g.opening = .parentheses)

def extended (g : Group) (j : Joint) (q : Query) : Group :=
  { g with joint := some j, before := q :: g.before }

/-- What the members mean, the last one included. -/
def query (g : Group) (last : Query) : Query :=
  match g.joint with
  | none => last
  | some j => j.make (g.before.reverse ++ [last])

def closed? (g : Group) (last : Query) : Option Query :=
  match g.opening with
  | .whole => none
  | .parentheses => some (g.query last)
  | .dash => some (.negation (g.query last))

end Group

/-! ## The machine -/

/-- Where the reader is. Innermost groups come first. -/
inductive Reader
  | start (groups : List Group)
  | dash (groups : List Group)
  /-- In a column name, of which these characters have passed, last first. -/
  | name (passed : List Char) (groups : List Group)
  | colon (column : String) (groups : List Group)
  /-- In a clause, of which these glyphs have passed, last first. -/
  | clause (column : String) (d : Delimiter) (passed : List Glyph) (groups : List Group)
  | backslash (column : String) (d : Delimiter) (passed : List Glyph) (groups : List Group)
  | ended (q : Query) (groups : List Group)
  /-- After the space behind an item. -/
  | gap (q : Query) (groups : List Group)
  /-- After a space and a bar behind an item. -/
  | bar (q : Query) (groups : List Group)

namespace Reader

def startItem (groups : List Group) (c : Char) : Option Reader :=
  if c = '(' then some (.start ({ opening := .parentheses } :: groups))
  else if c = '-' then some (.dash groups)
  else if c = '@' then some (.name [] groups)
  else none

def join? (j : Joint) (q : Query) : List Group → Option (List Group)
  | [] => none
  | g :: outer => if g.admits j then some (g.extended j q :: outer) else none

def close? (q : Query) : List Group → Option Reader
  | [] => none
  | g :: outer => (g.closed? q).map fun whole => .ended whole outer

/-- The place after one more character. -/
def step (p : Reader) (c : Char) : Option Reader :=
  match p with
  | .start groups => startItem groups c
  | .dash groups => if c = '(' then some (.start ({ opening := .dash } :: groups)) else none
  | .name passed groups =>
    if c = ':' then some (.colon (String.ofList passed.reverse) groups)
    else some (.name (c :: passed) groups)
  | .colon column groups => (Delimiter.ofOpening? c).map fun d => .clause column d [] groups
  | .clause column d passed groups =>
    if c = '\\' then some (.backslash column d passed groups)
    else if c = d.closing then
      (d.clause? passed.reverse).map fun k => .ended (.leaf ⟨column, k⟩) groups
    else some (.clause column d (⟨c, false⟩ :: passed) groups)
  | .backslash column d passed groups => some (.clause column d (⟨c, true⟩ :: passed) groups)
  | .ended q groups =>
    if c = ')' then close? q groups
    else if c = ' ' then some (.gap q groups)
    else none
  | .gap q groups =>
    if c = '|' then some (.bar q groups)
    else (join? .gap q groups).bind fun groups => startItem groups c
  | .bar q groups => if c = ' ' then (join? .bar q groups).map .start else none

def run (p : Reader) (cs : List Char) : Option Reader := cs.foldlM step p

end Reader

end TypedQuery
