import TypedQuery.Document.Instant
import TypedQuery.Number.Arithmetic
import TypedQuery.Number.Numeral
import TypedQuery.Text.Casing

/-!
What scalars mean: the value of a text that is of a sort. Numbers may have parts of base sixty, and
underscores in them do not count.
-/
set_option autoImplicit false

namespace TypedQuery

namespace Document

/-! ## Numbers -/

/-- The sign of a number and what follows it, without underscores. -/
def signAndBody (s : String) : Result (Bool × String) := do
  let cs := s.toList.filter (· ≠ '_')
  if cs.isEmpty then throw (.misuse .outOfRange)
  let (negative, body) := splitSign cs
  return (negative, String.ofList body)

/-- What a reader of numbers found, which has to be something. -/
def readPart {α : Type} (read? : String → Option α) (s : String) : Result α :=
  match read? s with
  | some x => .ok x
  | none => .error (.misuse .badValue)

/-- An integer without the sign in front: of base two, eight or sixteen after a zero, or else of
base ten or sixty. -/
def readMagnitude (s : String) : Result Int :=
  match s.toList with
  | [] => .error (.misuse .outOfRange)
  | '0' :: 'b' :: rest => readPart (readBased? 2 'b') (String.ofList rest)
  | '0' :: 'x' :: rest => readPart (readBased? 16 'x') (String.ofList rest)
  | '0' :: _ => readPart (readBased? 8 'o') s
  | _ => do
    let parts ← (s.splitOn ":").mapM (readPart readInt?)
    return parts.foldl (fun n part => 60 * n + part) 0

def readInteger (s : String) : Result Int := do
  let (negative, body) ← signAndBody s
  let n ← readMagnitude body
  return if negative then -n else n

/-- A sum with the parts of a number of base sixty added to it, the last part of the number first.
Every unit has to be a finite number, also where there is none of it. -/
def sixtyfold (sum : Double) (unit : Nat) : List Double → Result Double
  | [] => .ok sum
  | part :: more =>
    match Double.ofInt? unit with
    | none => .error (.misuse .overflow)
    | some scale => sixtyfold (sum.plus (part.times scale)) (60 * unit) more

def missingWord : String := ".nan"

def readFraction (s : String) : Result Double := do
  let (negative, body) ← signAndBody (lowerCase s)
  if body = ".inf" then return .infinite negative
  if body = missingWord then return .notANumber
  let parts ← (body.splitOn ":").mapM (readPart readDouble?)
  let x ←
    match parts with
    | [x] => pure x
    | parts => sixtyfold (.ofQuotient 0 1) 1 parts.reverse
  return if negative then x.negated else x

/-- Does a scalar write a missing number with the word for it? -/
def isMissingWord (s : String) : Bool :=
  match signAndBody (lowerCase s) with
  | .ok (_, body) => body = missingWord
  | .error _ => false

/-! ## Bytes -/

/-- The number of a character of the alphabet of sixty-four. -/
def sixBits? (c : Char) : Option Nat :=
  if c.isUpper then some (c.toNat - 65)
  else if c.isLower then some (c.toNat - 71)
  else if c.isDigit then some (c.toNat + 4)
  else if c = '+' then some 62
  else if c = '/' then some 63
  else none

/-- The bytes that characters write, six bits each, from the one on that comes at this place of a
group of four. Other characters do not count, and signs of equality fill the last group up. -/
def sixBitBytes : (place held fillers : Nat) → List Char → Result (List UInt8)
  | place, _, _, [] => if place = 0 then .ok [] else refuse .content
  | place, held, fillers, c :: rest =>
    if c = '=' then
      if 2 ≤ place && 4 ≤ place + fillers + 1 then .ok []
      else sixBitBytes place held (if 2 ≤ place then fillers + 1 else fillers) rest
    else
      match sixBits? c with
      | none => sixBitBytes place held fillers rest
      | some n => do
        let bits := 64 * held + n
        match place with
        | 0 => sixBitBytes 1 n 0 rest
        | 1 => return UInt8.ofNat (bits / 16) :: (← sixBitBytes 2 (bits % 16) 0 rest)
        | 2 => return UInt8.ofNat (bits / 4) :: (← sixBitBytes 3 (bits % 4) 0 rest)
        | _ => return UInt8.ofNat bits :: (← sixBitBytes 0 0 0 rest)

/-! ## Scalars -/

def readTruth (s : String) : Result Value :=
  match lowerCase s with
  | "yes" | "true" | "on" => .ok (.bool true)
  | "no" | "false" | "off" => .ok (.bool false)
  | _ => .error (.misuse .missingKey)

/-- The day or point in time that a scalar writes, up to a line break at the very end. -/
def readInstant (s : String) : Result Value :=
  match readInstant? (withoutFinalBreak s.toList) with
  | none => .error (.misuse .noMember)
  | some i =>
    match i.value? with
    | some v => .ok v
    | none => .error (.misuse .badValue)

def scalarValue (sort : NodeSort) (s : String) : Result Value :=
  match sort with
  | .text => .ok (.text s)
  | .nothing => .ok .null
  | .truth => readTruth s
  | .integer => Value.int <$> readInteger s
  | .fraction => Value.double <$> readFraction s
  | .instant => readInstant s
  | .bytes => do
    if s.toList.any fun c => 128 ≤ c.toNat then refuse .content
    return .bytes ⟨(← sixBitBytes 0 0 0 s.toList).toArray⟩
  | _ => refuse .content

end Document

end TypedQuery
