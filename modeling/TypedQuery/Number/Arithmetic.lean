import TypedQuery.Number.Double

/-!
Sums and products of doubles: the exact result, rounded once. Infinities and missing numbers
count as the binary formats lay down.
-/
set_option autoImplicit false

namespace TypedQuery

namespace Double

/-- The number with the other sign; a missing number has none. -/
def negated (x : Double) : Double :=
  match x.datum with
  | .finite negative significand exponent => .ofDatum (.finite (!negative) significand exponent)
  | .infinite negative => .infinite (!negative)
  | .notANumber => x

def withSign (negative : Bool) (n : Nat) : Int := if negative then -n else n

/-- The sum. Where two numbers cancel out it is a positive zero. -/
def plus (x y : Double) : Double :=
  match x.datum, y.datum with
  | .finite r m e, .finite s n f =>
    let (a, b) := Datum.fraction m e
    let (c, d) := Datum.fraction n f
    let sum := withSign r (a * d) + withSign s (c * b)
    if sum = 0 then ofFraction (r && s) 0 1 else ofQuotient sum (b * d)
  | .notANumber, _ => notANumber
  | _, .notANumber => notANumber
  | .infinite r, .infinite s => if r = s then infinite r else notANumber
  | .infinite r, .finite .. => infinite r
  | .finite .., .infinite s => infinite s

/-- The product. Zero times infinity is a missing number. -/
def times (x y : Double) : Double :=
  match x.datum, y.datum with
  | .finite r m e, .finite s n f =>
    let (a, b) := Datum.fraction m e
    let (c, d) := Datum.fraction n f
    ofFraction (r ^^ s) (a * c) (b * d)
  | .notANumber, _ => notANumber
  | _, .notANumber => notANumber
  | .infinite r, .infinite s => infinite (r ^^ s)
  | .infinite r, .finite s n _ => if n = 0 then notANumber else infinite (r ^^ s)
  | .finite r m _, .infinite s => if m = 0 then notANumber else infinite (r ^^ s)

end Double

end TypedQuery
