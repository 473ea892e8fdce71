import TypedQuery.Condition.Basic
import TypedQuery.Query.Escape
import TypedQuery.Query.NumberText

/-!
Writing conditions in the query language. Conditions that all hold are written side by side, in
parentheses when nested; a choice has bars between its members; a negation is a dash before
parentheses. Conditions that ask nothing are left out of a conjunction and refused elsewhere.
-/
set_option autoImplicit false

namespace TypedQuery

def wildcard : String := "*"

namespace Schema

/-- The field of a leaf, which has to be declared in this very form. A field of the schema is
recognised as itself. -/
def checkDeclared (s : Schema) (target : Target) : Result Field :=
  match target with
  | .other _ => .error (.misuse .noMember)
  | .field f origin =>
    let declared :=
      match s.byStoreName? f.storeName.text with
      | some g => (Target.field g .schema).same (.field f origin)
      | none => false
    if declared then .ok f
    else .error (.schema (.undeclared (.text f.name.text) s.entityName.shown))

/-- The field of a leaf, whose type the predicate has to fit as well. -/
def checkLeaf (s : Schema) (target : Target) (predicate : Predicate) : Result Field := do
  let f ← s.checkDeclared target
  if predicate.fits.contains f.type then return f
  else throw (.mismatch (.targets predicate.typeName f.type.label f.name.text))

/-- The word for a truth value in a query. -/
def truthWord (s : Schema) (b : Bool) : String :=
  match s.storage with
  | .json => if b then "true" else "false"
  | .hash => if b then "1" else "0"

end Schema

def inBraces (s : String) : String := "\x7b" ++ s ++ "\x7d"

def inQuotes (s : String) : String := "\x22" ++ s ++ "\x22"

def inBrackets (s : String) : String := "[" ++ s ++ "]"

def inParentheses (s : String) : String := "(" ++ s ++ ")"

/-- A bound of a range: nothing is the open bound, and an exclusive one has a parenthesis
before it. -/
def boundText (openBound : String) (bound inclusive : Value) : Result String :=
  match bound with
  | .null => .ok openBound
  | bound => do
    let text ← bound.queryNumber
    return if inclusive.truthy then text else "(" ++ text

namespace Predicate

/-- The clause of a predicate on a field, after the colon. -/
def clause (p : Predicate) (s : Schema) (f : Field) : Result String :=
  match p with
  | .equals value =>
    match f.type with
    | .tag => do return inBraces (escapeTag (← value.asText))
    | .text => do return inQuotes (escapeText (← value.asText))
    | .boolean => .ok (inBraces (s.truthWord value.truthy))
    | _ => do
      let text ← value.queryNumber
      return inBrackets (text ++ " " ++ text)
  | .range lower upper lowerInclusive upperInclusive => do
    let low ← boundText "-inf" lower lowerInclusive
    let high ← boundText "+inf" upper upperInclusive
    return inBrackets (low ++ " " ++ high)
  | .contains values => do
    let tags ← values.mapM fun v => escapeTag <$> v.asText
    return inBraces (joinTexts "|" tags)
  | .terms pattern exact => do
    let text ← escapeText <$> pattern.asText
    return if exact.truthy then inQuotes text else inParentheses text
  | .within longitude latitude radius unit => do
    let parts ← [longitude, latitude, radius].mapM Value.queryNumber
    return inBrackets (joinTexts " " (parts ++ [← unit.display]))
  | .nearest .. => .error (.query .neighboursNested)

end Predicate

namespace Schema

/-- A leaf: the store's name of the field and the clause. -/
def leafText (s : Schema) (target : Target) (predicate : Predicate) : Result String :=
  match predicate with
  | .nearest .. => .error (.query .neighboursNested)
  | predicate => do
    let f ← s.checkLeaf target predicate
    let clause ← predicate.clause s f
    return "@" ++ f.storeName.text ++ ":" ++ clause

mutual

def emit (s : Schema) (nested : Bool) : Condition → Result String
  | .all children => do
    match ← emitAsking s children with
    | [part] => return part
    | parts =>
      let joined := joinTexts " " parts
      return if nested then inParentheses joined else joined
  | .any children =>
    if children.isEmpty then .error (.query .emptyChoice)
    else if children.any Condition.isEmpty then .error (.query .emptyAlternative)
    else
      match children with
      | [child] => emit s nested child
      | children => do return inParentheses (joinTexts " | " (← emitAll s children))
  | .negation child =>
    if child.isEmpty then .error (.query .emptyNegation)
    else do return "-" ++ inParentheses (← emit s false child)
  | .leaf target predicate => s.leafText target predicate
  | .blank => .error (.misuse .noMember)
  | .foreign _ => .error (.misuse .noMember)

def emitAll (s : Schema) : List Condition → Result (List String)
  | [] => .ok []
  | c :: rest => do
    let part ← emit s true c
    return part :: (← emitAll s rest)

def emitAsking (s : Schema) : List Condition → Result (List String)
  | [] => .ok []
  | c :: rest =>
    if c.isEmpty then emitAsking s rest
    else do
      let part ← emit s true c
      return part :: (← emitAsking s rest)

end

/-- The query of a tree without nearest neighbours. -/
def conditionText (s : Schema) (c : Condition) : Result String :=
  if c.isEmpty then .ok wildcard else s.emit false c

end Schema

end TypedQuery
