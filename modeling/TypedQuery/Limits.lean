import TypedQuery.Value.Access

/-!
Limits on what callers may name or ask for: field names, key prefixes, dimensions, numbers of
neighbours and windows of results.
-/
set_option autoImplicit false

namespace TypedQuery

/-! ## Names -/

def longestFieldName : Nat := 256

/-- Letters of the basic alphabet, the underscore and the dollar sign start a field name. -/
def startsFieldName (c : Char) : Bool := c.isAlpha || c = '_' || c = '$'

/-- What may follow: also digits, dashes, dots, brackets and stars. -/
def continuesFieldName (c : Char) : Bool :=
  c.isAlphanum || ['_', '-', '.', '$', '[', ']', '*'].contains c

def isFieldName (s : String) : Bool :=
  match withoutFinalBreak s.toList with
  | [] => false
  | c :: rest => startsFieldName c && rest.all continuesFieldName

/-- What is wrong with a text as a field name, if anything. -/
def fieldNameFault? (s : String) : Option InputFault :=
  if s = "" then some .fieldNameEmpty
  else if longestFieldName < s.length then some (.fieldNameTooLong s.length)
  else if isFieldName s then none
  else some (.fieldNameMalformed s)

structure FieldName where
  text : String
  valid : fieldNameFault? text = none

instance : DecidableEq FieldName := fun a b =>
  if h : a.text = b.text then isTrue (by cases a; cases b; cases h; rfl)
  else isFalse fun e => h (congrArg FieldName.text e)

/-- A value that has to be a field name. -/
def checkFieldName (v : Value) : Except InputFault FieldName :=
  match v with
  | .text s =>
    match h : fieldNameFault? s with
    | none => .ok ⟨s, h⟩
    | some fault => .error fault
  | v => .error (.fieldNameNotText v.typeName)

/-- A value that has to be a key prefix: any text but the empty one. -/
def checkKeyPrefix (v : Value) : Except InputFault String :=
  match v with
  | .text s => if s = "" then .error .keyPrefixEmpty else .ok s
  | _ => .error .keyPrefixEmpty

/-! ## Numbers -/

def largestDimension : Nat := 32768

def mostNeighbours : Nat := 10000

def largestWindow : Nat := 10000

/-- A value that has to be a dimension between two limits. -/
def checkDimension (v lowest highest : Value) : Result Int :=
  match v with
  | .int n => do
    if ← lowest.greaterThan (.int n) then refuse (.input (.dimensionTooSmall n lowest))
    if ← highest.lessThan (.int n) then refuse (.input (.dimensionTooLarge n highest))
    return n
  | v => .error (.input (.dimensionNotInteger v.typeName))

theorem checkDimension_bounds {v : Value} {lowest highest n : Int}
    (h : checkDimension v (.int lowest) (.int highest) = .ok n) : lowest ≤ n ∧ n ≤ highest := by
  cases v <;> simp only [checkDimension, reduceCtorEq] at h
  simp only [Value.greaterThan, Value.lessThan, Value.numeral?, Numeral.lt, Numeral.extended,
    Extended.lt, bind, Except.bind, pure, Except.pure, refuse] at h
  split at h
  · simp at h
  · split at h
    · simp at h
    · cases h
      simp_all

/-- A value that has to be a number of neighbours. -/
def checkNeighbours (v highest : Value) : Result Int :=
  match v with
  | .int n => do
    if n < 1 then refuse (.input (.neighboursTooFew n))
    if ← highest.lessThan (.int n) then refuse (.input (.neighboursTooMany n highest))
    return n
  | v => .error (.input (.neighboursNotInteger v.typeName))

/-- A value that has to be an offset or a count. -/
def checkWindowPart (label : String) (v : Value) : Result Nat :=
  match v with
  | .int n => if n < 0 then refuse (.input (.windowNegative label n)) else .ok n.toNat
  | v => .error (.input (.windowNotInteger label v.typeName))

/-- Values that have to be the offset and the count of a window. -/
def checkWindow (offset count highest : Value) : Result (Nat × Nat) := do
  let offset ← checkWindowPart "offset" offset
  let count ← checkWindowPart "count" count
  if ← highest.lessThan (.int count) then refuse (.input (.windowTooLarge count highest))
  return (offset, count)

end TypedQuery
