import TypedQuery.Error

/-!
Reading values of no fixed type: going through them, counting them, looking into tables. Each
operation is refused as a misuse on values that it was never meant for.
-/
set_option autoImplicit false

namespace TypedQuery

abbrev Result (α : Type) := Except Error α

/-- A failure whose error shows values. -/
def refuse {α : Type} (e : Error) : Result α := .error e.raised

namespace Value

/-- The text of a value, if it can be written. -/
def display (v : Value) : Result String :=
  match v.display? with
  | some s => .ok s
  | none => .error (.misuse .badValue)

/-- The literal text of a value, if it can be written. -/
def literal (v : Value) : Result String :=
  match v.literal? with
  | some s => .ok s
  | none => .error (.misuse .badValue)

/-- The members that a value goes through: those of a sequence, the characters of a text, the
byte numbers of bytes, the keys of a table. -/
def members : Value → Result (List Value)
  | .list items => .ok items
  | .tuple items => .ok items
  | .text s => .ok (s.toList.map fun c => .text (String.singleton c))
  | .bytes b => .ok (b.toList.map fun n => .int n.toNat)
  | .map entries => .ok (entries.map (·.1))
  | _ => .error (.misuse .wrongType)

def length : Value → Result Nat
  | .list items => .ok items.length
  | .tuple items => .ok items.length
  | .text s => .ok s.length
  | .bytes b => .ok b.size
  | .map entries => .ok entries.length
  | _ => .error (.misuse .wrongType)

def entries : Value → Result (List (Value × Value))
  | .map entries => .ok entries
  | _ => .error (.misuse .noMember)

/-- The entry of a table under a text, which has to be there. -/
def entry (v : Value) (key : String) : Result Value :=
  match v with
  | .map entries =>
    match lookup? entries key with
    | some found => .ok found
    | none => .error (.misuse .missingKey)
  | _ => .error (.misuse .wrongType)

/-- The value of a text, which any other value lacks. -/
def asText : Value → Result String
  | .text s => .ok s
  | _ => .error (.misuse .wrongType)

/-- The integer of a value; a truth value is one or zero. -/
def asInteger (v : Value) : Result Int :=
  match v.numeral? with
  | some (.int n) => .ok n
  | _ => .error (.misuse .wrongType)

def asKey (v : Value) : Result Value :=
  if v.isKey then .ok v else .error (.misuse .wrongType)

/-- Is a value strictly below a number? Only numbers are ordered against numbers. -/
def lessThan (v : Value) (bound : Numeral) : Result Bool :=
  match v.numeral? with
  | some n => .ok (n.lt bound)
  | none => .error (.misuse .wrongType)

theorem lessThan_int (m n : Int) : lessThan (.int m) (.int n) = .ok (decide (m < n)) := by
  simp [lessThan, numeral?, Numeral.lt, Numeral.extended, Extended.lt]

def greaterThan (v : Value) (bound : Numeral) : Result Bool :=
  match v.numeral? with
  | some n => .ok (bound.lt n)
  | none => .error (.misuse .wrongType)

/-- Does a value lie between two numbers, either included? -/
def within (v : Value) (lowest highest : Numeral) : Result Bool :=
  match v.numeral? with
  | some n => .ok (lowest.le n && n.le highest)
  | none => .error (.misuse .wrongType)

/-- The double nearest to a value: a number, a truth value, or the text of a number. -/
def toDouble : Value → Result Double
  | .text s =>
    match readDouble? s with
    | some x => .ok x
    | none => .error (.misuse .badValue)
  | .bytes b =>
    let basic := b.toList.all fun n => n.toNat < 128
    match readDouble? (String.ofList (b.toList.map fun n => Char.ofNat n.toNat)) with
    | some x => if basic then .ok x else .error (.misuse .badValue)
    | none => .error (.misuse .badValue)
  | v =>
    match v.numeral? with
    | none => .error (.misuse .wrongType)
    | some n =>
      match n.toDouble? with
      | some x => .ok x
      | none => .error (.misuse .overflow)

end Value

end TypedQuery
