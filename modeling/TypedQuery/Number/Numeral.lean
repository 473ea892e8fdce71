import TypedQuery.Number.Shortest

/-!
Numbers as callers write them: an integer of any size or a double. They are compared by value,
exactly, whatever their sizes.
-/
set_option autoImplicit false

namespace TypedQuery

inductive Numeral
  | int (n : Int)
  | double (x : Double)
  deriving DecidableEq, Repr

/-- A number on the extended line, or no number at all. -/
inductive Extended
  | unordered
  | below
  | ratio (num : Int) (den : Nat)
  | above
  deriving DecidableEq, Repr

namespace Extended

/-- Strictly smaller; nothing is ordered against a missing number. -/
def lt : Extended → Extended → Bool
  | .unordered, _ => false
  | _, .unordered => false
  | .below, .below => false
  | .below, _ => true
  | _, .below => false
  | .above, _ => false
  | _, .above => true
  | .ratio a b, .ratio c d => a * d < c * b

/-- The same number; a missing number equals nothing. -/
def same : Extended → Extended → Bool
  | .below, .below => true
  | .above, .above => true
  | .ratio a b, .ratio c d => a * d = c * b
  | _, _ => false

def le (a b : Extended) : Bool := a.lt b || a.same b

end Extended

namespace Numeral

/-- The exact value. -/
def extended : Numeral → Extended
  | .int n => .ratio n 1
  | .double x =>
    match x.datum with
    | .notANumber => .unordered
    | .infinite negative => if negative then .below else .above
    | .finite negative significand exponent =>
      let (num, den) := Datum.fraction significand exponent
      .ratio (if negative then -(num : Int) else num) den

/-- Strictly smaller, exactly. -/
def lt (a b : Numeral) : Bool := a.extended.lt b.extended

/-- Smaller or equal, exactly. -/
def le (a b : Numeral) : Bool := a.extended.le b.extended

/-- Equal as numbers, exactly. -/
def same (a b : Numeral) : Bool := a.extended.same b.extended

def text? : Numeral → Option String
  | .int n => intText? n
  | .double x => some x.text

/-- The double nearest to a number; an integer beyond the largest double has none. -/
def toDouble? : Numeral → Option Double
  | .int n => Double.ofInt? n
  | .double x => some x

end Numeral

end TypedQuery
