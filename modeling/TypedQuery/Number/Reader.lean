import TypedQuery.Number.Shortest
import TypedQuery.Text.Digit

/-!
Reading numbers from text: integers, and doubles in positional or exponent notation. The digits
may be of any script, an underscore may stand between two digits of base ten, and blanks around
the number are skipped.
-/
set_option autoImplicit false

namespace TypedQuery

/-! ## Preparation -/

/-- The blanks that are skipped around a number once its characters are in the basic alphabet. -/
def isBasicBlank (c : Char) : Bool := c = ' ' || ('\t' ≤ c && c ≤ '\r')

/-- A character in the basic alphabet: a foreign digit becomes the digit of the same value, a
foreign blank a space, and anything else a character that no number holds. -/
def toBasicChar (c : Char) : Char :=
  if c.toNat < 127 then c
  else if isBlank c then ' '
  else match digitValue? c with
    | some n => Char.ofNat (48 + n)
    | none => '?'

/-- The characters of a number text, in the basic alphabet and without blanks at the ends. -/
def numberChars (s : String) : List Char :=
  let cs := s.toList.map toBasicChar
  ((cs.dropWhile isBasicBlank).reverse.dropWhile isBasicBlank).reverse

/-- Splits a sign off; `true` is minus. -/
def splitSign : List Char → Bool × List Char
  | '-' :: rest => (true, rest)
  | '+' :: rest => (false, rest)
  | cs => (false, cs)

/-- Removes underscores; each has to stand between two digits. -/
def withoutUnderscores (afterDigit : Bool) : List Char → Option (List Char)
  | [] => some []
  | '_' :: rest =>
    match rest with
    | c :: _ => if afterDigit && c.isDigit then withoutUnderscores false rest else none
    | [] => none
  | c :: rest => (withoutUnderscores c.isDigit rest).map (c :: ·)

def digitsValue (digits : List Char) : Nat :=
  digits.foldl (fun n c => 10 * n + (c.toNat - 48)) 0

/-! ## Integers -/

def readInt? (s : String) : Option Int := do
  let (negative, body) := splitSign (numberChars s)
  let digits ← withoutUnderscores false body
  if digits.isEmpty || !digits.all Char.isDigit || longestInteger < digits.length then none
  else
    let n : Int := digitsValue digits
    some (if negative then -n else n)

def hexValue? (c : Char) : Option Nat :=
  if c.isDigit then some (c.toNat - 48)
  else if 'a' ≤ c ∧ c ≤ 'f' then some (c.toNat - 87)
  else if 'A' ≤ c ∧ c ≤ 'F' then some (c.toNat - 55)
  else none

/-- The natural that figures of a base up to sixteen denote. -/
def basedValue? (base : Nat) (figures : List Char) : Option Nat :=
  if figures.isEmpty then none
  else figures.foldlM (fun n c => ((hexValue? c).filter (· < base)).map (base * n + ·)) 0

/-- Reads an integer of another base, before whose figures a zero and the letter of the base may
stand. There may be any number of figures. -/
def readBased? (base : Nat) (letter : Char) (s : String) : Option Int := do
  let (negative, body) := splitSign (numberChars s)
  let figures :=
    match body with
    | '0' :: mark :: rest => if mark.toLower = letter then rest else body
    | body => body
  let n : Int := (← basedValue? base figures)
  return if negative then -n else n

/-! ## Doubles -/

/-- The number nearest to `digits * 10 ^ exponent`. Far outside the range of doubles the power
itself is not computed. -/
def nearestDecimal (negative : Bool) (digits : List Char) (exponent : Int) : Double :=
  let significant := digits.dropWhile (· = '0')
  let reach := exponent + significant.length
  if significant.isEmpty then Double.ofFraction negative 0 1
  else if 400 < reach then Double.infinite negative
  else if reach < -400 then Double.ofFraction negative 0 1
  else
    Double.ofFraction negative (digitsValue significant * Nat.pow 10 exponent.toNat)
      (Nat.pow 10 (-exponent).toNat)

/-- Reads what follows the digits: nothing, or an exponent. -/
def readExponent? : List Char → Option Int
  | [] => some 0
  | mark :: rest =>
    if mark = 'e' ∨ mark = 'E' then
      let (negative, digits) := splitSign rest
      if digits.isEmpty || !digits.all Char.isDigit then none
      else
        let n : Int := digitsValue digits
        some (if negative then -n else n)
    else none

def readDecimal? (negative : Bool) (cs : List Char) : Option Double := do
  let whole := cs.takeWhile Char.isDigit
  let afterWhole := cs.dropWhile Char.isDigit
  let (fraction, rest) :=
    match afterWhole with
    | '.' :: tail => (tail.takeWhile Char.isDigit, tail.dropWhile Char.isDigit)
    | tail => ([], tail)
  if whole.isEmpty && fraction.isEmpty then none
  let exponent ← readExponent? rest
  return nearestDecimal negative (whole ++ fraction) (exponent - fraction.length)

/-- Reads a double: digits, or a word for infinity or a missing number in any case. -/
def readDouble? (s : String) : Option Double := do
  let cs ← withoutUnderscores false (numberChars s)
  let (negative, body) := splitSign cs
  match String.ofList (body.map Char.toLower) with
  | "inf" | "infinity" => return Double.infinite negative
  | "nan" => return Double.notANumber
  | _ => readDecimal? negative body

end TypedQuery
