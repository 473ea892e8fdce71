import TypedQuery.Document.Label

/-!
Sorts of nodes. A tag names the sort of its node; a plain scalar without a tag has the sort that
its characters look like.
-/
set_option autoImplicit false

namespace TypedQuery

namespace Document

inductive NodeSort
  | text
  | nothing
  | truth
  | integer
  | fraction
  | instant
  | bytes
  /-- The key under which the entries of other mappings are taken in. -/
  | merge
  /-- The key of the value that a mapping has where a scalar is asked for. -/
  | standard
  | sequence
  | mapping
  /-- A sequence of mappings with one entry each. -/
  | pairs
  /-- A mapping whose values do not count. -/
  | keys
  | other
  deriving DecidableEq, Repr

namespace NodeSort

/-- The beginning of the tags with a meaning of their own. -/
def family : String := "tag:yaml.org,2002:"

def ofTag (tag : String) : NodeSort :=
  if !family.toList.isPrefixOf tag.toList then .other
  else
    match String.ofList (tag.toList.drop family.length) with
    | "str" => .text
    | "null" => .nothing
    | "bool" => .truth
    | "int" => .integer
    | "float" => .fraction
    | "timestamp" => .instant
    | "binary" => .bytes
    | "merge" => .merge
    | "value" => .standard
    | "seq" => .sequence
    | "map" => .mapping
    | "omap" => .pairs
    | "pairs" => .pairs
    | "set" => .keys
    | _ => .other

/-! ## What plain scalars look like -/

/-- Characters without a sign at their beginning. -/
def unsigned (cs : List Char) : List Char := (splitSign cs).2

/-- A digit, or an underscore between digits. -/
def isFigure (c : Char) : Bool := c.isDigit || c = '_'

/-- Does a digit come first and then nothing but figures? -/
def isWhole (cs : List Char) : Bool := (first cs).isDigit && cs.all isFigure

/-- One or two digits for a number below sixty. -/
def isSixtieth (cs : List Char) : Bool :=
  match cs with
  | [a] => a.isDigit
  | [a, b] => '0' ≤ a && a ≤ '5' && b.isDigit
  | _ => false

/-- Numbers below sixty with colons in front of each, at least one of them. -/
def areSixtieths (cs : List Char) : Bool :=
  match (String.ofList cs).splitOn ":" with
  | "" :: part :: more => (part :: more).all fun p => isSixtieth p.toList
  | _ => false

/-- An integer: of base two, eight or sixteen after a zero, of base ten, or of base sixty. -/
def isInteger (cs : List Char) : Bool :=
  match unsigned cs with
  | ['0'] => true
  | '0' :: 'b' :: rest => !rest.isEmpty && rest.all fun c => c = '0' || c = '1' || c = '_'
  | '0' :: 'x' :: rest => !rest.isEmpty && rest.all fun c => (hexValue? c).isSome || c = '_'
  | '0' :: rest => rest.all fun c => ('0' ≤ c && c ≤ '7') || c = '_'
  | cs =>
    let rest := cs.dropWhile isFigure
    isWhole (cs.takeWhile isFigure) && (rest.isEmpty || areSixtieths rest)

/-- What may follow the figures of a fraction: nothing, or an exponent with a sign. -/
def isExponent (cs : List Char) : Bool :=
  match cs with
  | [] => true
  | mark :: sign :: digits =>
    (mark = 'e' || mark = 'E') && (sign = '+' || sign = '-') && !digits.isEmpty
      && digits.all Char.isDigit
  | _ => false

/-- A fraction: with a point, where digits stand before it, or behind it if there is no sign; of
base sixty before the point; or a word for infinity or a missing number. -/
def isFraction (cs : List Char) : Bool :=
  let body := unsigned cs
  let whole := body.takeWhile isFigure
  match body.dropWhile isFigure with
  | '.' :: rest =>
    let behind := rest.takeWhile isFigure
    let word := String.ofList rest
    if whole.isEmpty then
      (body = cs && (first behind).isDigit && isExponent (rest.dropWhile isFigure))
        || ["inf", "Inf", "INF"].contains word
        || (body = cs && ["nan", "NaN", "NAN"].contains word)
    else isWhole whole && isExponent (rest.dropWhile isFigure)
  | ':' :: rest =>
    let sixtieths := (':' :: rest).takeWhile (· ≠ '.')
    match (':' :: rest).dropWhile (· ≠ '.') with
    | '.' :: behind => isWhole whole && areSixtieths sixtieths && behind.all isFigure
    | _ => false
  | _ => false

/-- The sort of a plain scalar without a tag; `isDay` tells whether it looks like a day or a point
in time. A line break at the very end does not count, unless there is nothing else. -/
def ofPlain (isDay : List Char → Bool) (s : String) : NodeSort :=
  match if s = "\n" then s else String.ofList (withoutFinalBreak s.toList) with
  | "" | "~" | "null" | "Null" | "NULL" => .nothing
  | "yes" | "Yes" | "YES" | "true" | "True" | "TRUE" | "on" | "On" | "ON" => .truth
  | "no" | "No" | "NO" | "false" | "False" | "FALSE" | "off" | "Off" | "OFF" => .truth
  | "<<" => .merge
  | "=" => .standard
  | s =>
    let cs := s.toList
    if isInteger cs then .integer
    else if isFraction cs then .fraction
    else if isDay cs then .instant
    else .text

end NodeSort

end Document

end TypedQuery
