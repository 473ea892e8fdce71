import TypedQuery.Text.Printable

/-!
Quoted texts and bytes. A text stands in single quotes, or in double quotes if it holds a single
quote and no double one; what cannot be printed is written as an escape of two, four or eight
hexadecimal digits.
-/
set_option autoImplicit false

namespace TypedQuery

def hexDigit (n : Nat) : Char := if n < 10 then Char.ofNat (48 + n) else Char.ofNat (87 + n)

/-- The lowest `count` hexadecimal digits of a natural, highest first. -/
def hexDigits : Nat → Nat → List Char
  | 0, _ => []
  | count + 1, n => hexDigits count (n / 16) ++ [hexDigit (n % 16)]

/-- The quote that a text with these characters stands in. -/
def quoteFor (single double : Bool) : Char :=
  if single && !double then '\x22' else '\x27'

/-- A character as an escape: the fewest of two, four or eight hexadecimal digits. -/
def escapedChar (c : Char) : List Char :=
  if c.toNat < 256 then '\\' :: 'x' :: hexDigits 2 c.toNat
  else if c.toNat < 65536 then '\\' :: 'u' :: hexDigits 4 c.toNat
  else '\\' :: 'U' :: hexDigits 8 c.toNat

/-- Characters in the basic alphabet; those beyond it are escaped. -/
def inBasicAlphabet (cs : List Char) : List Char :=
  cs.flatMap fun c => if c.toNat < 128 then [c] else escapedChar c

def quotedChar (quote c : Char) : List Char :=
  if c = quote ∨ c = '\\' then ['\\', c]
  else if c = '\n' then ['\\', 'n']
  else if c = '\r' then ['\\', 'r']
  else if c = '\t' then ['\\', 't']
  else if isPrintable c then [c]
  else escapedChar c

def quotedText (s : String) : String :=
  let cs := s.toList
  let quote := quoteFor (cs.contains '\x27') (cs.contains '\x22')
  String.ofList (quote :: (cs.flatMap (quotedChar quote) ++ [quote]))

/-- A byte inside quotes; bytes beyond the basic alphabet are always escaped. -/
def quotedByte (quote : Char) (b : UInt8) : List Char :=
  let c := Char.ofNat b.toNat
  if 127 ≤ b.toNat then '\\' :: 'x' :: hexDigits 2 b.toNat else quotedChar quote c

/-- Bytes in quotes, after the letter that marks them. -/
def quotedBytes (bytes : ByteArray) : String :=
  let bs := bytes.toList
  let quote := quoteFor (bs.contains 0x27) (bs.contains 0x22)
  String.ofList ('b' :: quote :: (bs.flatMap (quotedByte quote) ++ [quote]))

end TypedQuery
