import TypedQuery.Number.Double

/-!
The decimal text of a double: the fewest significant digits that read back as the same number,
and of those the nearest. Between `1e-04` and `1e+16` the point is written in place and a whole
number keeps one zero after it; outside, there is an exponent of at least two digits.
-/
set_option autoImplicit false

namespace TypedQuery

/-! ## Digits -/

/-- How many decimal digits a natural has; zero has one. -/
def decimalLength (n : Nat) : Nat :=
  if n < 10 then 1 else decimalLength (n / 10) + 1
termination_by n
decreasing_by omega

/-- The decimal digits of a natural, highest first. -/
def decimalDigits (n : Nat) : List Char :=
  if n < 10 then [Char.ofNat (48 + n)] else decimalDigits (n / 10) ++ [Char.ofNat (48 + n % 10)]
termination_by n
decreasing_by omega

def intText (n : Int) : String :=
  if n < 0 then "-" ++ String.ofList (decimalDigits n.natAbs)
  else String.ofList (decimalDigits n.natAbs)

/-- How many digits an integer may have where it is read or written. -/
def longestInteger : Nat := 4300

/-- The least natural with more digits than that: a power of ten, taken in two steps so that each of
them is evaluated at once. -/
def integerBound : Nat := Nat.pow (Nat.pow 10 43) 100

theorem integerBound_eq : integerBound = Nat.pow 10 longestInteger := by
  have split {a b n : Nat} (h : a * b = n) : Nat.pow (Nat.pow 10 a) b = Nat.pow 10 n :=
    h ▸ (Nat.pow_mul 10 a b).symm
  exact split rfl

/-- Can an integer be written? -/
def isShort (n : Int) : Bool := n.natAbs < integerBound

/-- The text of an integer, unless it has too many digits. -/
def intText? (n : Int) : Option String := if isShort n then some (intText n) else none

/-- The exponent of the first significant decimal digit of the positive `num / den`. -/
def decimalExponent (num den : Nat) : Int :=
  let guess : Int := (decimalLength num : Int) - decimalLength den
  let reaches :=
    if 0 ≤ guess then den * Nat.pow 10 guess.toNat ≤ num
    else den ≤ num * Nat.pow 10 (-guess).toNat
  if reaches then guess else guess - 1

/-! ## The interval that reads back -/

/-- The magnitudes that round to one double, in quarters of its last place: `lower` and `upper`
bound them and belong to them if `closed`. -/
structure RoundingInterval where
  lower : Nat
  centre : Nat
  upper : Nat
  closed : Bool
  /-- Exponent of a quarter of the last place. -/
  exponent : Int

namespace RoundingInterval

/-- The interval of a positive magnitude. Below a power of two the neighbour is nearer, so the
lower half is half as wide there. -/
def ofFinite (significand : Nat) (exponent : Int) : RoundingInterval :=
  let narrow :=
    significand = Nat.pow 2 BinaryFormat.double.fractionBits
      ∧ BinaryFormat.double.lowestExponent < exponent
  { lower := 4 * significand - (if narrow then 1 else 2)
    centre := 4 * significand
    upper := 4 * significand + 2
    closed := significand % 2 = 0
    exponent := exponent - 2 }

/-- Does `digits * 10 ^ place` lie in the interval? -/
def holds (i : RoundingInterval) (digits : Nat) (place : Int) : Bool :=
  let scaled := digits * Nat.pow 10 place.toNat * Nat.pow 2 (-i.exponent).toNat
  let unit := Nat.pow 10 (-place).toNat * Nat.pow 2 i.exponent.toNat
  if i.closed then i.lower * unit ≤ scaled ∧ scaled ≤ i.upper * unit
  else i.lower * unit < scaled ∧ scaled < i.upper * unit

/-- The numerator and denominator of the centre in units of `10 ^ place`. -/
def centreIn (i : RoundingInterval) (place : Int) : Nat × Nat :=
  (i.centre * Nat.pow 2 i.exponent.toNat * Nat.pow 10 (-place).toNat,
    Nat.pow 2 (-i.exponent).toNat * Nat.pow 10 place.toNat)

/-- The grid point next to the centre that reads back, the nearer one if both do and the even one
if both are equally near. -/
def nearestOnGrid? (i : RoundingInterval) (place : Int) : Option Nat :=
  let (num, den) := i.centreIn place
  let below := num / den
  let nearest := roundQuotient num den
  let other := if nearest = below then below + 1 else below
  if i.holds nearest place then some nearest
  else if i.holds other place then some other
  else none

/-- The digits of the coarsest grid, of at most `count` further places, on which a point reads
back; the exact point of the last grid is the fallback. -/
def coarsest (i : RoundingInterval) : Nat → Int → Nat × Int
  | 0, place => (let (num, den) := i.centreIn place; roundQuotient num den, place)
  | count + 1, place =>
    match i.nearestOnGrid? place with
    | some digits => (digits, place)
    | none => i.coarsest count (place - 1)

end RoundingInterval

/-- Drops the zeros at the end of a digit string, raising the place for each. -/
def dropTrailingZeros (digits : Nat) (place : Int) : Nat × Int :=
  if 0 < digits ∧ digits % 10 = 0 then dropTrailingZeros (digits / 10) (place + 1)
  else (digits, place)
termination_by digits
decreasing_by omega

/-- The shortest digits of a positive magnitude `significand * 2 ^ exponent`, with their place:
it is near `digits * 10 ^ place`. Seventeen digits always suffice. -/
def shortestDigits (significand : Nat) (exponent : Int) : Nat × Int :=
  let (num, den) := Datum.fraction significand exponent
  let found :=
    (RoundingInterval.ofFinite significand exponent).coarsest 17 (decimalExponent num den)
  dropTrailingZeros found.1 found.2

/-! ## Layout -/

/-- How numbers are laid out: the point is written in place for first digits whose exponents lie
in this range, and an exponent has at least two digits and always a sign. -/
structure NumberLayout where
  lowestPositional : Int
  highestPositional : Int
  exponentDigits : Nat

def NumberLayout.standard : NumberLayout := ⟨-4, 15, 2⟩

namespace NumberLayout

/-- Digits with the point after the first `whole` of them, zeros filling up on either side. -/
def positional (digits : List Char) (whole : Int) : List Char :=
  if whole ≤ 0 then
    '0' :: '.' :: (List.replicate (-whole).toNat '0' ++ digits)
  else if digits.length ≤ whole.toNat then
    digits ++ List.replicate (whole.toNat - digits.length) '0' ++ ['.', '0']
  else digits.take whole.toNat ++ '.' :: digits.drop whole.toNat

/-- Digits with the point after the first one, and the exponent of the first one. -/
def scientific (l : NumberLayout) (digits : List Char) (exponent : Int) : List Char :=
  let fraction :=
    match digits with
    | first :: second :: rest => first :: '.' :: second :: rest
    | short => short
  let sign := if exponent < 0 then '-' else '+'
  let figures := decimalDigits exponent.natAbs
  fraction ++ 'e' :: sign
    :: (List.replicate (l.exponentDigits - figures.length) '0' ++ figures)

/-- The text of a positive magnitude `digits * 10 ^ place`. -/
def magnitude (l : NumberLayout) (digits : Nat) (place : Int) : List Char :=
  let figures := decimalDigits digits
  let exponent := place + figures.length - 1
  if l.lowestPositional ≤ exponent ∧ exponent ≤ l.highestPositional then
    positional figures (exponent + 1)
  else l.scientific figures exponent

end NumberLayout

namespace Double

def text (x : Double) : String :=
  match x.datum with
  | .notANumber => "nan"
  | .infinite negative => if negative then "-inf" else "inf"
  | .finite negative significand exponent =>
    let (digits, place) :=
      if significand = 0 then (0, 0) else shortestDigits significand exponent
    let figures := NumberLayout.standard.magnitude digits place
    String.ofList (if negative then '-' :: figures else figures)

end Double

end TypedQuery
