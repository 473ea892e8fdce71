import TypedQuery.Number.Numeral
import TypedQuery.Calendar.DateTime

/-!
Values as callers and stores hand them over: nothing, truth values, numbers, texts, bytes,
sequences, tables, days and points in time. A truth value also counts as the number one or zero.
-/
set_option autoImplicit false

namespace TypedQuery

inductive Value
  | null
  | bool (b : Bool)
  | int (n : Int)
  | double (x : Double)
  | text (s : String)
  | bytes (b : ByteArray)
  | list (items : List Value)
  | tuple (items : List Value)
  | map (entries : List (Value × Value))
  | date (d : Date)
  | dateTime (t : DateTime)
  deriving Inhabited

namespace Value

def typeName : Value → String
  | .null => "NoneType"
  | .bool _ => "bool"
  | .int _ => "int"
  | .double _ => "float"
  | .text _ => "str"
  | .bytes _ => "bytes"
  | .list _ => "list"
  | .tuple _ => "tuple"
  | .map _ => "dict"
  | .date _ => "date"
  | .dateTime _ => "datetime"

/-- Zero, nothing and everything empty count as false. -/
def truthy : Value → Bool
  | .null => false
  | .bool b => b
  | .int n => n ≠ 0
  | .double x => !x.isZero
  | .text s => s ≠ ""
  | .bytes b => b.size ≠ 0
  | .list items => !items.isEmpty
  | .tuple items => !items.isEmpty
  | .map entries => !entries.isEmpty
  | .date _ => true
  | .dateTime _ => true

/-- A number, truth values included. -/
def numeral? : Value → Option Numeral
  | .bool b => some (.int (if b then 1 else 0))
  | .int n => some (.int n)
  | .double x => some (.double x)
  | _ => none

/-- A number, truth values not included. -/
def number? : Value → Option Numeral
  | .int n => some (.int n)
  | .double x => some (.double x)
  | _ => none

def ofNumeral : Numeral → Value
  | .int n => .int n
  | .double x => .double x

def items? : Value → Option (List Value)
  | .list items => some items
  | .tuple items => some items
  | _ => none

/-! ## Equality -/

mutual

/-- Equal in every part, representation included. -/
def identical : Value → Value → Bool
  | .null, .null => true
  | .bool a, .bool b => a == b
  | .int a, .int b => a == b
  | .double a, .double b => a == b
  | .text a, .text b => a == b
  | .bytes a, .bytes b => a.data == b.data
  | .list a, .list b => identicalItems a b
  | .tuple a, .tuple b => identicalItems a b
  | .map a, .map b => identicalEntries a b
  | .date a, .date b => a == b
  | .dateTime a, .dateTime b => a.sameParts b
  | _, _ => false

/-- Members equal in every part, in the same order. -/
def identicalItems : List Value → List Value → Bool
  | [], [] => true
  | a :: as, b :: bs => identical a b && identicalItems as bs
  | _, _ => false

/-- Entries equal in every part, in the same order. -/
def identicalEntries : List (Value × Value) → List (Value × Value) → Bool
  | [], [] => true
  | (k, v) :: as, (l, w) :: bs => identical k l && identical v w && identicalEntries as bs
  | _, _ => false

end

mutual

/-- Equal in meaning: numbers by value, tables whatever their order, points in time by instant. -/
def same : Value → Value → Bool
  | .null, .null => true
  | .bool a, b =>
    match b.numeral? with
    | some n => (Numeral.int (if a then 1 else 0)).same n
    | none => false
  | .int a, b =>
    match b.numeral? with
    | some n => (Numeral.int a).same n
    | none => false
  | .double a, b =>
    match b.numeral? with
    | some n => (Numeral.double a).same n
    | none => false
  | .text a, .text b => a == b
  | .bytes a, .bytes b => a.data == b.data
  | .list a, .list b => sameItems a b
  | .tuple a, .tuple b => sameItems a b
  | .map a, .map b => a.length == b.length && sameEntries a b
  | .date a, .date b => a == b
  | .dateTime a, .dateTime b => a.same b
  | _, _ => false

/-- Members equal in meaning, in the same order. -/
def sameItems : List Value → List Value → Bool
  | [], [] => true
  | a :: as, b :: bs => same a b && sameItems as bs
  | _, _ => false

/-- Each entry of the first table is in the second. -/
def sameEntries : List (Value × Value) → List (Value × Value) → Bool
  | [], _ => true
  | (k, v) :: as, bs => bs.any (fun e => same k e.1 && same v e.2) && sameEntries as bs

end

mutual

/-- Can the value be looked up? Lists and tables cannot, nor anything that holds one. -/
def isKey : Value → Bool
  | .list _ => false
  | .map _ => false
  | .tuple items => areKeys items
  | _ => true

def areKeys : List Value → Bool
  | [] => true
  | v :: rest => isKey v && areKeys rest

end

def isAmong (v : Value) (vs : List Value) : Bool := vs.any v.same

def lookup? (entries : List (Value × Value)) (key : String) : Option Value :=
  (entries.find? fun e => match e.1 with
    | .text s => s == key
    | _ => false).map (·.2)

/-- A table with an entry added, or replaced where an equal key stands already. -/
def insertEntry (entries : List (Value × Value)) (key value : Value) : List (Value × Value) :=
  if entries.any fun e => e.1.same key then
    entries.map fun e => if e.1.same key then (e.1, value) else e
  else entries ++ [(key, value)]

/-! ## Lemmas -/

mutual

theorem identical_self : ∀ v : Value, identical v v = true
  | .null => by simp [identical]
  | .bool _ => by simp [identical]
  | .int _ => by simp [identical]
  | .double _ => by simp [identical]
  | .text _ => by simp [identical]
  | .bytes _ => by simp [identical]
  | .list items => by simpa [identical] using identicalItems_self items
  | .tuple items => by simpa [identical] using identicalItems_self items
  | .map entries => by simpa [identical] using identicalEntries_self entries
  | .date _ => by simp [identical]
  | .dateTime _ => by simp [identical, DateTime.sameParts]

theorem identicalItems_self : ∀ vs : List Value, identicalItems vs vs = true
  | [] => by simp [identicalItems]
  | v :: vs => by simp [identicalItems, identical_self v, identicalItems_self vs]

theorem identicalEntries_self : ∀ es : List (Value × Value), identicalEntries es es = true
  | [] => by simp [identicalEntries]
  | (k, v) :: es => by
    simp [identicalEntries, identical_self k, identical_self v, identicalEntries_self es]

end

end Value

end TypedQuery
