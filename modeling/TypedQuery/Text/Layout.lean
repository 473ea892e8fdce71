import TypedQuery.Number.Arithmetic
import TypedQuery.Number.Figures
import TypedQuery.Text.Digit

/-!
Layouts of texts and integers in a template: fill and alignment, a sign, zeros in front, a width, a
separator between groups of digits, a precision and the form of a number.
-/
set_option autoImplicit false

namespace TypedQuery

inductive TemplateFault
  /-- A brace, a conversion or a layout that is not well formed. -/
  | malformed
  /-- A place for an unnamed text, or a position beyond the end. -/
  | noSuchPosition
  /-- A place for another name. -/
  | unknownName
  /-- A member that there is not. -/
  | noMember
  /-- A position that is no number or in something without an order, or a layout for something
  that is no text. -/
  | notForThis
  /-- A width beyond all bounds. -/
  | tooWide
  /-- A number that no character has. -/
  | notCharacter
  deriving DecidableEq, Repr

namespace Template

/-! ## Numbers in a template -/

def greatestNumber : Nat := Nat.pow 2 63 - 1

/-- Reads a number on from its first digits; nothing if a character is no digit. A number that is
too large is a fault even if some other character would follow. -/
def readNumber (start : Nat) : List Char → Except TemplateFault (Option Nat)
  | [] => .ok (some start)
  | c :: rest =>
    match digitValue? c with
    | none => .ok none
    | some d =>
      if greatestNumber < 10 * start + d then .error .malformed
      else readNumber (10 * start + d) rest

def numberOf? (digits : List Char) : Except TemplateFault (Option Nat) :=
  if digits.isEmpty then .ok none else readNumber 0 digits

end Template

structure Layout where
  fill : Char := ' '
  align : Option Char := none
  sign : Option Char := none
  /-- A negative zero is asked to be a positive one. -/
  dropsSign : Bool := false
  /-- The mark of the base or the point is asked to stand in any case. -/
  isAlternate : Bool := false
  /-- Zeros are asked for in front of the digits, where no alignment is given. -/
  fillsZeros : Bool := false
  width : Nat := 0
  separator : Option Char := none
  precision : Option Nat := none
  form : Option Char := none

namespace Layout

/-! ## Reading a layout -/

def isAlignment (c : Char) : Bool := c = '<' || c = '>' || c = '^' || c = '='

/-- Splits fill and alignment off; the flag tells whether a fill was given. -/
def splitAlignment (cs : List Char) : Layout × Bool × List Char :=
  match cs with
  | fill :: align :: rest =>
    if isAlignment align then ({ fill, align := some align }, true, rest)
    else if isAlignment fill then ({ align := some fill }, false, align :: rest)
    else ({}, false, cs)
  | [align] => if isAlignment align then ({ align := some align }, false, []) else ({}, false, cs)
  | [] => ({}, false, [])

/-- One of these characters, if one comes next, and what follows. -/
def nextOf (choices : List Char) (cs : List Char) : Option Char × List Char :=
  match cs with
  | c :: rest => if choices.contains c then (some c, rest) else (none, cs)
  | [] => (none, [])

def read (cs : List Char) : Except TemplateFault Layout := do
  let isDigit (c : Char) : Bool := (digitValue? c).isSome
  let (layout, filled, rest) := splitAlignment cs
  let (sign, rest) := nextOf [' ', '+', '-'] rest
  let (dropsSign, rest) := nextOf ['z'] rest
  let (alternate, rest) := nextOf ['#'] rest
  let (zero, rest) := if filled then (none, rest) else nextOf ['0'] rest
  let width := (← Template.numberOf? (rest.takeWhile isDigit)).getD 0
  let (separator, rest) := nextOf [',', '_'] (rest.dropWhile isDigit)
  let (precision, rest) ←
    match rest with
    | '.' :: tail =>
      match ← Template.numberOf? (tail.takeWhile isDigit) with
      | some n => pure (some n, tail.dropWhile isDigit)
      | none => throw .malformed
    | rest => pure (none, rest)
  if 1 < rest.length then throw .malformed
  return {
    layout with
    fill := zero.getD layout.fill
    sign, dropsSign := dropsSign.isSome, isAlternate := alternate.isSome
    fillsZeros := zero.isSome, width, separator, precision, form := rest.head? }

/-! ## Laying out -/

/-- The width up to which something is laid out. -/
def greatestWidth : Nat := Nat.pow 10 10

/-- Something in its width: what comes in front, and the rest. The alignment is the usual one if
none is given. -/
def placed (l : Layout) (usual : Char) (front body : List Char) : List Char :=
  let missing := l.width - (front ++ body).length
  let fill (count : Nat) : List Char := List.replicate count l.fill
  match l.align.getD usual with
  | '<' => front ++ body ++ fill missing
  | '^' => fill (missing / 2) ++ front ++ body ++ fill (missing - missing / 2)
  | '=' => front ++ fill missing ++ body
  | _ => fill missing ++ front ++ body

/-- A text in a layout. All that is about numbers is refused. -/
def text (l : Layout) (cs : List Char) : Except TemplateFault (List Char) :=
  let isForText :=
    l.sign.isNone && !l.dropsSign && !l.isAlternate && l.separator.isNone
      && l.align ≠ some '=' && l.form.getD 's' = 's'
  if !isForText then .error .malformed
  else if greatestWidth < l.width then .error .tooWide
  else .ok (l.placed '<' [] ((l.precision.map cs.take).getD cs))

/-! ## Integers -/

/-- Digits from the last one on, with a separator after each group and zeros up to at least some
length. The first argument bounds the number of groups. -/
def grouped (separator : Char) (size : Nat) : Nat → List Char → Nat → List Char
  | 0, digits, _ => digits
  | count + 1, digits, least =>
    let length := min size (max (max digits.length least) 1)
    let group := digits.take length ++ List.replicate (length - digits.length) '0'
    if digits.length ≤ length && least ≤ length then group
    else
      group ++ separator :: grouped separator size count (digits.drop length) (least - length - 1)

def signOf (l : Layout) (negative : Bool) : List Char :=
  if negative then ['-']
  else match l.sign with
    | some '+' => ['+']
    | some ' ' => [' ']
    | _ => []

/-- A number from its sign and the mark of its base, its digits in groups of some size, and what
comes behind those. -/
def numberIn (l : Layout) (front : List Char) (size : Nat) (digits behind : List Char) :
    List Char :=
  let usual := if l.fillsZeros then '=' else '>'
  let hasZeros := l.fill = '0' && l.align.getD usual = '='
  let least := if hasZeros then l.width - (front ++ behind).length else 0
  let shown :=
    match l.separator with
    | some c => (grouped c size (digits.length + least + 1) digits.reverse least).reverse
    | none => digits
  l.placed usual front (shown ++ behind)

/-- A number as above, if its width can be held. -/
def number (l : Layout) (front : List Char) (size : Nat) (digits behind : List Char) :
    Except TemplateFault (List Char) :=
  if greatestWidth < l.width then .error .tooWide else .ok (l.numberIn front size digits behind)

/-- An integer in a base. Other bases than ten have a mark and groups of four digits, for which
there is only one separator. -/
def inBase (l : Layout) (n : Int) (form : Char) : Except TemplateFault (List Char) :=
  let based (base : Nat) : Except TemplateFault (List Char) :=
    let figures := Figures.inBase base n.natAbs
    let digits := if form.isUpper then figures.map Char.toUpper else figures
    if l.separator = some ',' then .error .malformed
    else l.number (l.signOf (n < 0) ++ if l.isAlternate then ['0', form] else []) 4 digits []
  if l.precision.isSome || l.dropsSign then .error .malformed
  else
    match form with
    | 'b' => based 2
    | 'o' => based 8
    | 'x' => based 16
    | 'X' => based 16
    | _ => l.number (l.signOf (n < 0)) 3 (Figures.inBase 10 n.natAbs) []

def greatestPrecision : Nat := Nat.pow 2 31 - 1

/-- A double as a fraction in a layout, or as so many hundredths. -/
def fraction (l : Layout) (x : Double) (form : Char) : Except TemplateFault (List Char) :=
  let x := if form = '%' then x.times (.ofQuotient 100 1) else x
  match x.datum with
  | .finite negative significand exponent =>
    let (num, den) := Datum.fraction significand exponent
    let places := l.precision.getD 6
    let figures :=
      match form.toLower with
      | 'e' => Figures.scientificText num den places l.isAlternate
      | 'g' => Figures.generalText num den places l.isAlternate
      | _ => Figures.fixedText num den places l.isAlternate
    let figures := if form.isUpper then figures.map Char.toUpper else figures
    let behind := figures.dropWhile Char.isDigit ++ if form = '%' then ['%'] else []
    if greatestPrecision < places then .error .malformed
    else l.number (l.signOf negative) 3 (figures.takeWhile Char.isDigit) behind
  | _ => .error .malformed

/-- The character that an integer is the number of. -/
def character (l : Layout) (n : Int) : Except TemplateFault (List Char) :=
  if l.precision.isSome || l.dropsSign || l.sign.isSome || l.isAlternate || l.separator.isSome then
    .error .malformed
  else if n < 0 || 0x10ffff < n then .error .notCharacter
  else l.number [] 3 [] [Char.ofNat n.toNat]

def integer (l : Layout) (n : Int) : Except TemplateFault (List Char) :=
  let form := l.form.getD 'd'
  if ['b', 'd', 'o', 'x', 'X'].contains form then l.inBase n form
  else if form = 'n' then
    if l.separator.isSome then .error .malformed else l.inBase n 'd'
  else if form = 'c' then l.character n
  else if ['e', 'E', 'f', 'F', 'g', 'G', '%'].contains form then
    match Double.ofInt? n with
    | some x => l.fraction x form
    | none => .error .notCharacter
  else .error .malformed

end Layout

end TypedQuery
