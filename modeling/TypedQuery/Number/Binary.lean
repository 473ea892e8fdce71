import TypedQuery.Number.Rounding

/-!
Binary interchange formats: what a bit pattern means, and the pattern nearest to a fraction.
A pattern is a natural below `2 ^ (1 + exponentBits + fractionBits)`: sign, exponent field,
fraction field, from the highest bit down.
-/
set_option autoImplicit false

namespace TypedQuery

structure BinaryFormat where
  exponentBits : Nat
  fractionBits : Nat
  deriving DecidableEq, Repr

namespace BinaryFormat

/-- Four bytes: eight bits of exponent and twenty-three of fraction. -/
def single : BinaryFormat := ⟨8, 23⟩

/-- Eight bytes: eleven bits of exponent and fifty-two of fraction. -/
def double : BinaryFormat := ⟨11, 52⟩

def width (f : BinaryFormat) : Nat := 1 + f.exponentBits + f.fractionBits

def bytes (f : BinaryFormat) : Nat := f.width / 8

/-- Exponent of the last place of the smallest numbers. -/
def lowestExponent (f : BinaryFormat) : Int :=
  2 - (Nat.pow 2 (f.exponentBits - 1) : Int) - f.fractionBits

/-- Pattern of positive infinity; larger patterns of either sign are not numbers. -/
def infinityPattern (f : BinaryFormat) : Nat :=
  (Nat.pow 2 f.exponentBits - 1) * Nat.pow 2 f.fractionBits

def signPattern (f : BinaryFormat) : Nat := Nat.pow 2 (f.exponentBits + f.fractionBits)

end BinaryFormat

/-- What a pattern stands for; a finite number is `significand * 2 ^ exponent` with a sign. -/
inductive Datum
  | notANumber
  | infinite (negative : Bool)
  | finite (negative : Bool) (significand : Nat) (exponent : Int)
  deriving DecidableEq, Repr

namespace Datum

def isFinite : Datum → Bool
  | .finite .. => true
  | _ => false

/-- Numerator and denominator of a magnitude `significand * 2 ^ exponent`. -/
def fraction (significand : Nat) (exponent : Int) : Nat × Nat :=
  if 0 ≤ exponent then (significand * Nat.pow 2 exponent.toNat, 1)
  else (significand, Nat.pow 2 (-exponent).toNat)

end Datum

namespace BinaryFormat

def decode (f : BinaryFormat) (pattern : Nat) : Datum :=
  let negative := f.signPattern ≤ pattern
  let body := pattern % f.signPattern
  let field := body / Nat.pow 2 f.fractionBits
  let rest := body % Nat.pow 2 f.fractionBits
  if f.infinityPattern < body then .notANumber
  else if body = f.infinityPattern then .infinite negative
  else if field = 0 then .finite negative rest f.lowestExponent
  else .finite negative (Nat.pow 2 f.fractionBits + rest) (f.lowestExponent + (field - 1))

/-- Exponent of the last place in which `num / den` is rounded: the number then has one bit more
than the fraction field, or stands in the lowest place. -/
def placeOf (f : BinaryFormat) (num den : Nat) : Int :=
  let guess : Int := (Nat.log2 num : Int) - Nat.log2 den
  let reaches :=
    if 0 ≤ guess then den * Nat.pow 2 guess.toNat ≤ num
    else den ≤ num * Nat.pow 2 (-guess).toNat
  let top := if reaches then guess else guess - 1
  if num = 0 then f.lowestExponent else max (top - f.fractionBits) f.lowestExponent

/-- Pattern of the magnitude nearest to `num / den`, a tie going to the even pattern; a magnitude
beyond the largest finite one rounds to infinity. -/
def magnitudePattern (f : BinaryFormat) (num den : Nat) : Nat :=
  let place := f.placeOf num den
  let scaled :=
    if 0 ≤ place then roundQuotient num (den * Nat.pow 2 place.toNat)
    else roundQuotient (num * Nat.pow 2 (-place).toNat) den
  min ((place - f.lowestExponent).toNat * Nat.pow 2 f.fractionBits + scaled) f.infinityPattern

def signed (f : BinaryFormat) (negative : Bool) (magnitude : Nat) : Nat :=
  if negative then f.signPattern + magnitude else magnitude

/-- Pattern of the one quiet "not a number" that is ever written. -/
def quietPattern (f : BinaryFormat) : Nat := f.infinityPattern + Nat.pow 2 (f.fractionBits - 1)

/-- Pattern nearest to a datum, which may come from another format. -/
def encode (f : BinaryFormat) : Datum → Nat
  | .notANumber => f.quietPattern
  | .infinite negative => f.signed negative f.infinityPattern
  | .finite negative significand exponent =>
    let (num, den) := Datum.fraction significand exponent
    f.signed negative (f.magnitudePattern num den)

/-- Bytes of a pattern, lowest first. -/
def littleEndian (f : BinaryFormat) (pattern : Nat) : List UInt8 :=
  (List.range f.bytes).map fun i => UInt8.ofNat (pattern / Nat.pow 256 i % 256)

/-- Pattern of bytes, lowest first. -/
def ofLittleEndian : List UInt8 → Nat
  | [] => 0
  | b :: rest => b.toNat + 256 * ofLittleEndian rest

end BinaryFormat

end TypedQuery
