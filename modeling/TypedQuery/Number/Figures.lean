import TypedQuery.Number.Shortest
import TypedQuery.Text.Quoted

/-!
Naturals in a base, and fractions with a given number of figures: with the point in its place, with
an exponent, or in whichever of the two ways is the shorter. What is left over is rounded to the
nearest figure, a half going to the even one.
-/
set_option autoImplicit false

namespace TypedQuery

namespace Figures

/-- The figures of a natural in a base up to sixteen, highest first. -/
def inBase (base n : Nat) : List Char :=
  if _h : 2 ≤ base ∧ base ≤ n then inBase base (n / base) ++ [hexDigit (n % base)]
  else [hexDigit n]
termination_by n
decreasing_by exact Nat.div_lt_self (by omega) (by omega)

/-- A point and the figures behind it. A point without figures is written only if it is kept. -/
def behindPoint (keepsPoint : Bool) (figures : List Char) : List Char :=
  if figures.isEmpty && !keepsPoint then [] else '.' :: figures

/-- Figures without the zeros at their end. -/
def withoutZeros (figures : List Char) : List Char :=
  (figures.reverse.dropWhile (· = '0')).reverse

/-- The quotient `num / den` in units of `10 ^ place`, rounded. -/
def rounded (num den : Nat) (place : Int) : Nat :=
  roundQuotient (num * Nat.pow 10 (-place).toNat) (den * Nat.pow 10 place.toNat)

/-- The figures before and behind the point, with `places` of the latter. -/
def fixed (num den places : Nat) : List Char × List Char :=
  let figures := decimalDigits (rounded num den (-(places : Int)))
  let figures := List.replicate (places + 1 - figures.length) '0' ++ figures
  figures.splitAt (figures.length - places)

/-- The first `count + 1` significant figures and the exponent of the first of them. -/
def significant (num den count : Nat) : List Char × Int :=
  if num = 0 then (List.replicate (count + 1) '0', 0)
  else
    let exponent := decimalExponent num den
    let figures := decimalDigits (rounded num den (exponent - count))
    if count + 1 < figures.length then (figures.take (count + 1), exponent + 1)
    else (figures, exponent)

/-- An exponent with its sign and at least two figures. -/
def exponentText (exponent : Int) : List Char :=
  let figures := decimalDigits exponent.natAbs
  (if exponent < 0 then '-' else '+') :: (List.replicate (2 - figures.length) '0' ++ figures)

/-- A fraction with the point in its place and `places` figures behind it. -/
def fixedText (num den places : Nat) (keepsPoint : Bool) : List Char :=
  let (whole, behind) := fixed num den places
  whole ++ behindPoint keepsPoint behind

/-- A fraction with an exponent and `places` figures behind the point. -/
def scientificText (num den places : Nat) (keepsPoint : Bool) : List Char :=
  let (figures, exponent) := significant num den places
  figures.take 1 ++ behindPoint keepsPoint (figures.drop 1) ++ 'e' :: exponentText exponent

/-- A fraction with `count` significant figures, at least one. The point is in its place if the
exponent of the first figure is not below minus four and below the number of figures; zeros at
the end are dropped unless the point is kept. -/
def generalText (num den count : Nat) (keepsPoint : Bool) : List Char :=
  let count := max count 1
  let (figures, exponent) := significant num den (count - 1)
  let shown (cs : List Char) : List Char := if keepsPoint then cs else withoutZeros cs
  if -4 ≤ exponent ∧ exponent < count then
    let (whole, behind) := fixed num den (count - 1 - exponent).toNat
    whole ++ behindPoint keepsPoint (shown behind)
  else
    figures.take 1 ++ behindPoint keepsPoint (shown (figures.drop 1))
      ++ 'e' :: exponentText exponent

end Figures

end TypedQuery
