import TypedQuery.Number.Binary

/-!
Eight-byte binary numbers, held as their bit pattern. Arithmetic goes through exact fractions and
one rounding, so that every result is the nearest representable number.
-/
set_option autoImplicit false

namespace TypedQuery

structure Double where
  bits : UInt64
  deriving DecidableEq, Repr, Inhabited

namespace Double

def datum (x : Double) : Datum := BinaryFormat.double.decode x.bits.toNat

def ofDatum (d : Datum) : Double := ⟨UInt64.ofNat (BinaryFormat.double.encode d)⟩

def ofFraction (negative : Bool) (num den : Nat) : Double :=
  ⟨UInt64.ofNat (BinaryFormat.double.signed negative
    (BinaryFormat.double.magnitudePattern num den))⟩

/-- The number nearest to the quotient of an integer and a positive natural. -/
def ofQuotient (num : Int) (den : Nat) : Double := ofFraction (num < 0) num.natAbs den

/-- The number nearest to an integer, if that is finite. -/
def ofInt? (n : Int) : Option Double :=
  let x := ofQuotient n 1
  if x.datum.isFinite then some x else none

/-- Positive infinity, or negative infinity. -/
def infinite (negative : Bool) : Double := ofDatum (.infinite negative)

def notANumber : Double := ofDatum .notANumber

/-- The missing number is recognised by its meaning, whatever its payload. -/
def isNotANumber (x : Double) : Bool := x.datum == .notANumber

def isFinite (x : Double) : Bool := x.datum.isFinite

/-- The integer part of a finite number, cut toward zero; zero for others. -/
def truncate (x : Double) : Int :=
  match x.datum with
  | .finite negative significand exponent =>
    let (num, den) := Datum.fraction significand exponent
    let whole : Int := (num / den : Nat)
    if negative then -whole else whole
  | _ => 0

/-- A finite number without a fractional part. -/
def isWhole (x : Double) : Bool :=
  match x.datum with
  | .finite _ significand exponent =>
    let (num, den) := Datum.fraction significand exponent
    num % den = 0
  | _ => false

/-- The part of a finite number after its integer part, as a signed fraction. -/
def fractionalPart (x : Double) : Bool × Nat × Nat :=
  match x.datum with
  | .finite negative significand exponent =>
    let (num, den) := Datum.fraction significand exponent
    (negative, num % den, den)
  | _ => (false, 0, 1)

/-- A finite number rounded to an integer, a half going to the even one; zero for others. -/
def roundToInt (x : Double) : Int :=
  match x.datum with
  | .finite negative significand exponent =>
    let (num, den) := Datum.fraction significand exponent
    let whole : Int := roundQuotient num den
    if negative then -whole else whole
  | _ => 0

def isZero (x : Double) : Bool :=
  match x.datum with
  | .finite _ 0 _ => true
  | _ => false

end Double

end TypedQuery
