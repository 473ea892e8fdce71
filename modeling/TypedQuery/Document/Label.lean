import TypedQuery.Document.Scalar

/-!
Labels of nodes and directives of documents, as they are written: the names of anchors and
aliases, tags, and the lines that tell the version or abbreviate tags.
-/
set_option autoImplicit false

namespace TypedQuery

namespace Document

/-- A tag as it is written: an abbreviation, if there is one, and what follows it. -/
structure TagText where
  handle : Option String
  suffix : String
  deriving DecidableEq, Repr

inductive Directive
  | version (major minor : Nat)
  | abbreviation (handle written : String)
  | other
  deriving DecidableEq, Repr

def isNameChar (c : Char) : Bool := c.isAlphanum || c = '-' || c = '_'

/-- A name at the beginning of the characters, and what follows. -/
def readName (cs : List Char) : Result (String × List Char) := do
  let rest := cs.dropWhile isNameChar
  let _ ← look rest
  if rest.length = cs.length then refuse .token
  return (String.ofList (cs.takeWhile isNameChar), rest)

/-- The name of an anchor or alias, and what follows. -/
def readAnchor (cs : List Char) : Result (String × List Char) := do
  let (name, rest) ← readName cs
  if endsWord (first rest) || "?:,]\x7d%@\x60".toList.contains (first rest) then return (name, rest)
  refuse .token

/-! ## Tags -/

/-- A character of a tag other than a percent sign. -/
def isTagChar (c : Char) : Bool :=
  c.isAlphanum || "-;/?:@&=+$,_.!~*\x27()[]".toList.contains c

/-- The bytes that pairs of hexadecimal digits behind percent signs write, and what follows. -/
def readTagBytes : List Char → Result (List UInt8 × List Char)
  | '%' :: a :: b :: rest => do
    let n ← hexNumber 0 2 [a, b]
    let (bytes, left) ← readTagBytes rest
    return (UInt8.ofNat n :: bytes, left)
  | '%' :: rest => do
    let _ ← hexNumber 0 2 rest
    refuse .token
  | cs => do
    let _ ← look cs
    return ([], cs)

/-- The characters of a tag, and what follows. Characters may be written by their bytes. -/
def readTagChars : Nat → List Char → Result (List Char × List Char)
  | 0, cs => .ok ([], cs)
  | count + 1, cs => do
    let c ← look cs
    if c = '%' then
      let (bytes, rest) ← readTagBytes cs
      match String.fromUTF8? ⟨bytes.toArray⟩ with
      | none => refuse .token
      | some s =>
        let (chars, left) ← readTagChars count rest
        return (s.toList ++ chars, left)
    else if isTagChar c then
      let (chars, left) ← readTagChars count (cs.drop 1)
      return (c :: chars, left)
    else return ([], cs)

/-- A tag or the rest of one, of at least one character, and what follows. -/
def readTagSuffix (cs : List Char) : Result (String × List Char) := do
  let (chars, rest) ← readTagChars (cs.length + 1) cs
  if rest.length = cs.length then refuse .token
  return (String.ofList chars, rest)

/-- The abbreviation at the beginning of a tag: an exclamation mark, or a name between two of
them. -/
def readHandle (cs : List Char) : Result (String × List Char) := do
  if (← look cs) ≠ '!' then refuse .token
  let rest := cs.drop 1
  if (← look rest) = ' ' then return ("!", rest)
  let after := rest.dropWhile isNameChar
  if (← look after) ≠ '!' then refuse .token
  return (String.ofList ('!' :: rest.takeWhile isNameChar ++ ['!']), after.drop 1)

/-- A tag in any of its three forms, from its exclamation mark on, without what follows being
looked at. -/
def readTagForm (cs : List Char) : Result (TagText × List Char) := do
  let rest := cs.drop 1
  let c ← look rest
  if c = '<' then
    let (suffix, left) ← readTagSuffix (rest.drop 1)
    if first left = '>' then return (⟨none, suffix⟩, left.drop 1)
    refuse .token
  else if endsWord c then return (⟨none, "!"⟩, rest)
  else
    let before := rest.dropWhile fun c => c ≠ '!' && c ≠ ' ' && !endsLine c
    let (handle, left) ← if (← look before) = '!' then readHandle cs else pure ("!", rest)
    let (suffix, left) ← readTagSuffix left
    return (⟨some handle, suffix⟩, left)

/-- A tag, and what follows. -/
def readTag (cs : List Char) : Result (TagText × List Char) := do
  let (tag, rest) ← readTagForm cs
  let c ← look rest
  if c = ' ' || endsLine c then return (tag, rest)
  refuse .token

/-! ## Directives -/

/-- A number of a version, and what follows. -/
def readVersionPart (cs : List Char) : Result (Nat × List Char) := do
  let rest := cs.dropWhile Char.isDigit
  let _ ← look rest
  match cs.takeWhile Char.isDigit with
  | [] => refuse .token
  | digits =>
    if longestInteger < digits.length then throw (.misuse .badValue)
    return (digitsValue digits, rest)

/-- What a directive with a name says, and what follows. -/
def readDirectiveBody (name : String) (cs : List Char) : Result (Directive × List Char) := do
  let body := cs.dropWhile (· = ' ')
  match name with
  | "YAML" =>
    let (major, rest) ← readVersionPart body
    if first rest ≠ '.' then refuse .token
    let (minor, rest) ← readVersionPart (rest.drop 1)
    if first rest = ' ' || endsLine (first rest) then return (.version major minor, rest)
    refuse .token
  | "TAG" =>
    let (handle, rest) ← readHandle body
    if (← look rest) ≠ ' ' then refuse .token
    let (written, rest) ← readTagSuffix (rest.dropWhile (· = ' '))
    if first rest = ' ' || endsLine (first rest) then return (.abbreviation handle written, rest)
    refuse .token
  | _ => return (.other, cs.dropWhile fun c => !endsLine c)

/-- A directive from its percent sign on, to the end of its line, and what follows. -/
def readDirective (cs : List Char) : Result (Directive × List Char) := do
  let (name, rest) ← readName (cs.drop 1)
  if !(first rest = ' ' || endsLine (first rest)) then refuse .token
  let (directive, rest) ← readDirectiveBody name rest
  return (directive, ← afterLine rest)

end Document

end TypedQuery
