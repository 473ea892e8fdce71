import TypedQuery.Value.Access

/-!
Combining values by their own logic: integers bit by bit, truth values, and two tables into one.
Nothing else can be combined.
-/
set_option autoImplicit false

namespace TypedQuery

/-- The bits that both integers have. A negative integer has every bit from some place on. -/
def sharedBits : Int → Int → Int
  | .ofNat m, .ofNat n => .ofNat (m &&& n)
  | .ofNat m, .negSucc n => .ofNat (m ^^^ (m &&& n))
  | .negSucc m, .ofNat n => .ofNat (n ^^^ (n &&& m))
  | .negSucc m, .negSucc n => .negSucc (m ||| n)

/-- The bits that one of the integers has: those which are not missing from both. -/
def joinedBits (a b : Int) : Int := ~~~sharedBits (~~~a) (~~~b)

namespace Value

/-- What two truth values or integers have in common. -/
def meet (v w : Value) : Result Value :=
  match v, w with
  | .bool a, .bool b => .ok (.bool (a && b))
  | v, w => do return .int (sharedBits (← v.asInteger) (← w.asInteger))

/-- What one of two truth values or integers has. Of two tables the second goes before the first
where they differ. -/
def join (v w : Value) : Result Value :=
  match v, w with
  | .bool a, .bool b => .ok (.bool (a || b))
  | .map entries, .map others =>
    .ok (.map (others.foldl (fun joined e => insertEntry joined e.1 e.2) entries))
  | v, w => do return .int (joinedBits (← v.asInteger) (← w.asInteger))

def complement (v : Value) : Result Value := do return .int (~~~(← v.asInteger))

end Value

end TypedQuery
