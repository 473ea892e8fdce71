import TypedQuery.Logging.Level
import TypedQuery.Number.Figures
import TypedQuery.Text.WordChar

/-!
Layouts of log lines: text with places for the parts of a message, such as `%(levelname)-8s`. A
layout has to have at least one place. A place says how its part is written: as text, as an
integer of some base, as a fraction or as a single character.
-/
set_option autoImplicit false

namespace TypedQuery

structure LogEntry where
  logger : String
  level : Level
  message : Value
  /-- The text of the time at which it was logged. -/
  time : String

namespace LineLayout

/-- The layout used unless another is given. -/
def standard : String := "%(asctime)s - %(name)s - %(levelname)s - %(message)s"

def isFlag (c : Char) : Bool := ['#', '0', '+', ' ', '-'].contains c

/-! ## Checking a layout -/

/-- A letter that may end a place, in any case; three further letters count as `i` and `s`. -/
def isKind (c : Char) : Bool :=
  "diouxefgcrsa%".toList.contains c.toLower || [0x130, 0x131, 0x17f].contains c.toNat

def isFigure (c : Char) : Bool := (digitValue? c).isSome

/-- The characters after a size, which is a star or a number. -/
def afterSize (cs : List Char) : List Char :=
  match cs with
  | '*' :: rest => rest
  | cs => cs.dropWhile isFigure

def startsSize (cs : List Char) : Bool := (cs.head?.map fun c => c = '*' || isFigure c).getD false

/-- Do the characters after a percent sign describe a place? -/
def isPlace (cs : List Char) : Bool :=
  match cs with
  | '(' :: rest =>
    match rest.dropWhile isWordChar with
    | ')' :: tail =>
      let tail := afterSize (tail.dropWhile isFlag)
      let tail := match tail with
        | '.' :: size => if startsSize size then afterSize size else tail
        | tail => tail
      (rest.head?.map isWordChar).getD false && (tail.head?.map isKind).getD false
    | _ => false
  | _ => false

/-- Does a place begin at one of the characters? -/
def anyPlace : List Char → Bool
  | [] => false
  | c :: rest => (c = '%' && isPlace rest) || anyPlace rest

def hasPlace (layout : String) : Bool := anyPlace layout.toList

/-! ## Reading a layout -/

/-- How the text of a place is laid out. -/
structure Shape where
  flags : List Char
  width : Nat
  /-- The most characters, or the least digits, or the digits behind a point. -/
  precision : Option Nat
  kind : Char

inductive Part
  | literal (c : Char)
  | place (name : String) (shape : Shape)
  /-- A place without a name, which stands for the whole message with all its parts. -/
  | whole (shape : Shape)
  /-- A percent sign that begins nothing. -/
  | fault

/-- The width up to which a place is filled. -/
def greatestWidth : Nat := Nat.pow 10 10

def greatestPrecision : Nat := Nat.pow 2 31 - 1

/-- The precision at the beginning of the characters, with the rest. A point without digits asks
for none of them. -/
def precisionOf (cs : List Char) : Option Nat × List Char :=
  match cs with
  | '.' :: rest =>
    (some (digitsValue (rest.takeWhile Char.isDigit)), rest.dropWhile Char.isDigit)
  | cs => (none, cs)

/-- Characters without a letter for the length of a number, which means nothing. -/
def afterLength (cs : List Char) : List Char :=
  match cs with
  | c :: rest => if ['h', 'l', 'L'].contains c then rest else cs
  | [] => []

/-- The shape at the beginning of the characters, with the rest. -/
def shape? (cs : List Char) : Option (Shape × List Char) :=
  let flags := cs.takeWhile isFlag
  let rest := cs.dropWhile isFlag
  let width := digitsValue (rest.takeWhile Char.isDigit)
  let (precision, rest) := precisionOf (rest.dropWhile Char.isDigit)
  if greatestWidth < width || greatestPrecision < precision.getD 0 then none
  else
    match afterLength rest with
    | kind :: rest => some (⟨flags, width, precision, kind⟩, rest)
    | [] => none

/-- The part that follows a percent sign, with the rest. A second percent sign stands for
itself. -/
def partAfterPercent (cs : List Char) : Part × List Char :=
  match cs with
  | '(' :: rest =>
    let name := rest.takeWhile (· ≠ ')')
    match shape? ((rest.dropWhile (· ≠ ')')).drop 1) with
    | some (shape, rest) => (.place (String.ofList name) shape, rest)
    | none => (.fault, [])
  | '%' :: rest => (.literal '%', rest)
  | cs =>
    match shape? cs with
    | some (shape, rest) => (.whole shape, rest)
    | none => (.fault, [])

/-- The parts of a layout; the first argument bounds their number. -/
def partsUpTo : Nat → List Char → List Part
  | 0, _ => []
  | _, [] => []
  | count + 1, c :: rest =>
    if c = '%' then
      let (part, rest) := partAfterPercent rest
      part :: partsUpTo count rest
    else .literal c :: partsUpTo count rest

/-- The parts of a layout, of which there are no more than it has characters. -/
def parts (layout : String) : List Part := partsUpTo layout.length layout.toList

/-! ## Filling a layout -/

def valueOf (e : LogEntry) (name : String) : Option Value := do
  match name with
  | "name" => some (.text e.logger)
  | "levelname" => some (.text e.level.label)
  | "levelno" => some (.int e.level.rank)
  | "message" => return .text (← e.message.display?)
  | "msg" => some e.message
  | "asctime" => some (.text e.time)
  | "args" => some (.tuple [])
  | "exc_info" | "exc_text" | "stack_info" => some .null
  | "threadName" => some (.text "MainThread")
  | "processName" => some (.text "MainProcess")
  | _ => none

/-- Characters widened with spaces, on the left unless a flag says otherwise. -/
def widened (shape : Shape) (cs : List Char) : List Char :=
  let missing := List.replicate (shape.width - cs.length) ' '
  if shape.flags.contains '-' then cs ++ missing else missing ++ cs

def shapedText (shape : Shape) (cs : List Char) : List Char :=
  widened shape ((shape.precision.map cs.take).getD cs)

def signOf (shape : Shape) (negative : Bool) : List Char :=
  if negative then ['-']
  else if shape.flags.contains '+' then ['+']
  else if shape.flags.contains ' ' then [' ']
  else []

/-- A number from its sign, the mark of its base and its figures. Zeros that fill it up stand
before the figures. -/
def shapedNumber (shape : Shape) (negative : Bool) (mark figures : List Char) : List Char :=
  let front := signOf shape negative ++ mark
  if shape.flags.contains '0' && !shape.flags.contains '-' then
    front ++ List.replicate (shape.width - (front ++ figures).length) '0' ++ figures
  else widened shape (front ++ figures)

/-- An integer in a shape, in the base that the kind names, with zeros in front up to the
precision. -/
def shapedInteger (shape : Shape) (n : Int) : Option (List Char) :=
  let inBase (base : Nat) (mark : List Char) (change : Char → Char) : List Char :=
    let figures := (Figures.inBase base n.natAbs).map change
    let zeros := List.replicate (shape.precision.getD 0 - figures.length) '0'
    shapedNumber shape (n < 0) (if shape.flags.contains '#' then mark else []) (zeros ++ figures)
  if greatestPrecision < shape.precision.getD 0 + 3 then none
  else
    match shape.kind with
    | 'd' | 'i' | 'u' => if isShort n then some (inBase 10 [] id) else none
    | 'o' => some (inBase 8 ['0', 'o'] id)
    | 'x' => some (inBase 16 ['0', 'x'] id)
    | 'X' => some (inBase 16 ['0', 'X'] Char.toUpper)
    | _ => none

/-- The figures of a fraction: six of them unless a precision is given. -/
def fractionFigures (shape : Shape) (num den : Nat) : List Char :=
  let count := shape.precision.getD 6
  let keepsPoint := shape.flags.contains '#'
  match shape.kind.toLower with
  | 'f' => Figures.fixedText num den count keepsPoint
  | 'e' => Figures.scientificText num den count keepsPoint
  | _ => Figures.generalText num den count keepsPoint

/-- A fraction in a shape. A capital letter as kind makes all letters capital. -/
def shapedFraction (shape : Shape) (x : Double) : List Char :=
  let (negative, figures) :=
    match x.datum with
    | .notANumber => (false, "nan".toList)
    | .infinite negative => (negative, "inf".toList)
    | .finite negative significand exponent =>
      let (num, den) := Datum.fraction significand exponent
      (negative, fractionFigures shape num den)
  shapedNumber shape negative [] (if shape.kind.isUpper then figures.map Char.toUpper else figures)

/-- The integer that a value counts as where an integer of base ten is asked for; fractions are
cut. -/
def wholeOf? (v : Value) : Option Int :=
  match v.numeral? with
  | some (.int n) => some n
  | some (.double x) => if x.isFinite then some x.truncate else none
  | none => none

def integerOf? (v : Value) : Option Int :=
  match v.numeral? with
  | some (.int n) => some n
  | _ => none

/-- The single character that a value is or whose number it is. -/
def characterOf? (v : Value) : Option Char :=
  match v with
  | .text s =>
    match s.toList with
    | [c] => some c
    | _ => none
  | v => do
    let n ← integerOf? v
    if 0 ≤ n ∧ n.toNat.isValidChar then some (Char.ofNat n.toNat) else none

/-- A place filled from a message, if the message has such a part and the kind fits it. -/
def fillPlace (e : LogEntry) (name : String) (shape : Shape) : Option (List Char) := do
  let v ← valueOf e name
  match shape.kind with
  | 's' => return shapedText shape (← v.display?).toList
  | 'r' => return shapedText shape (← v.literal?).toList
  | 'a' => return shapedText shape (inBasicAlphabet (← v.literal?).toList)
  | 'd' | 'i' | 'u' => shapedInteger shape (← wholeOf? v)
  | 'o' | 'x' | 'X' => shapedInteger shape (← integerOf? v)
  | 'e' | 'E' | 'f' | 'F' | 'g' | 'G' => return shapedFraction shape (← (← v.numeral?).toDouble?)
  | 'c' => return widened shape [← characterOf? v]
  | _ => none

/-- The beginning of a message with all its parts, before those that differ from run to run. -/
def wholeStart (e : LogEntry) : Option String := do
  let named (name : String) : Option String := do
    return "'" ++ name ++ "': " ++ (← (← valueOf e name).literal?)
  let entries ← ["name", "msg", "args", "levelname", "levelno"].mapM named
  return "\x7b" ++ String.intercalate ", " entries ++ ", 'pathname': '"

/-- A place without a name, filled if it asks for no more than the beginning of the message. -/
def fillWhole (e : LogEntry) (shape : Shape) : Option (List Char) := do
  let text ←
    match shape.kind with
    | 's' | 'r' => return (← wholeStart e).toList
    | 'a' => return inBasicAlphabet (← wholeStart e).toList
    | _ => none
  if (← shape.precision) ≤ text.length then some (shapedText shape text) else none

/-- Only the first of the places may be without a name. -/
def inOrder (ps : List Part) : Bool :=
  let places := ps.filter fun | .literal _ => false | _ => true
  (places.drop 1).all fun | .whole _ => false | _ => true

/-- The line of a message, if every place can be filled and the message itself can be written. -/
def line? (layout : String) (e : LogEntry) : Option String := do
  if !inOrder (parts layout) || e.message.display?.isNone then none
  let pieces ← (parts layout).mapM fun part =>
    match part with
    | .literal c => some [c]
    | .place name shape => fillPlace e name shape
    | .whole shape => fillWhole e shape
    | .fault => none
  return String.ofList (pieces.flatten ++ ['\n'])

end LineLayout

end TypedQuery
