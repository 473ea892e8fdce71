import TypedQuery.Value.Access

/-!
Numbers in queries. Integers are written out if they can be, doubles with the fewest digits, and
infinities with their sign. Truth values are no numbers here.
-/
set_option autoImplicit false

namespace TypedQuery

def Numeral.queryText : Numeral → Result String
  | .int n => (Value.int n).display
  | .double x =>
    match x.datum with
    | .notANumber => .error (.query .missingNumber)
    | .infinite negative => .ok (if negative then "-inf" else "+inf")
    | .finite .. => .ok x.text

/-- A value that has to be a number, in a query. -/
def Value.queryNumber (v : Value) : Result String :=
  match v.number? with
  | none => .error (.query (.notNumber v.typeName))
  | some n => n.queryText

end TypedQuery
