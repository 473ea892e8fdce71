import TypedQuery.Condition.Instant
import TypedQuery.Field.VectorCodec
import TypedQuery.Value.Combination

/-!
Building conditions. Every builder looks at the field first and refuses a type that its predicate
does not fit, then checks and normalises its arguments.
-/
set_option autoImplicit false

namespace TypedQuery

namespace Condition

/-- The field of a predicate, which has to be of one of the types. -/
def requireField (target : Target) (predicate : String) (allowed : List FieldType) :
    Result Field :=
  match target with
  | .other v => .error (.notA "FieldDescriptor" v.typeName)
  | .field f _ =>
    if allowed.contains f.type then .ok f
    else .error (.mismatch
      (.refused predicate f.type.label f.name.text (allowed.map FieldType.label)))

def requireNumber (f : Field) (v : Value) : Except InputFault Numeral :=
  match v.number? with
  | none => .error (.notNumber f.name.text v.typeName)
  | some (.double x) =>
    if x.isNotANumber then .error (.missingNumber f.name.text) else .ok (.double x)
  | some n => .ok n

/-- A bound of a range; nothing is an open bound. -/
def boundOf (f : Field) (v : Value) : Except InputFault (Option Numeral) :=
  match v with
  | .null => .ok none
  | v => some <$> if f.type = .date then toEpoch v else requireNumber f v

def boundValue : Option Numeral → Value
  | none => .null
  | some n => .ofNumeral n

/-- The value that a field can be compared with. A number is written out where a tag is asked for. -/
def equalValue (f : Field) (v : Value) : Result Value :=
  match f.type with
  | .boolean =>
    match v with
    | .bool b => .ok (.bool b)
    | v => .error (.input (.notBoolean f.name.text v.typeName))
  | .number => Value.ofNumeral <$> (requireNumber f v).mapError .input
  | .date => Value.ofNumeral <$> (toEpoch v).mapError .input
  | .tag =>
    match v with
    | .text s => if s = "" then .error (.input (.emptyTag f.name.text)) else .ok (.text s)
    | v =>
      match v.number? with
      | some n => .text <$> (Value.ofNumeral n).display
      | none => .error (.input (.notText f.name.text v.typeName))
  | _ =>
    match v with
    | .text s =>
      if isBlankText s then .error (.input (.emptyPhrase f.name.text)) else .ok (.text s)
    | v => .error (.input (.notText f.name.text v.typeName))

def equals (target : Target) (value : Value) : Result Condition := do
  let f ← requireField target "equals" [.text, .tag, .number, .boolean, .date]
  return .leaf target (.equals (← equalValue f value))

/-- The field lies between two bounds. A lower bound above the upper one is refused. -/
def range (target : Target) (minimum maximum minInclusive maxInclusive : Value) :
    Result Condition := do
  let f ← requireField target "range" [.number, .date]
  let lower ← (boundOf f minimum).mapError .input
  let upper ← (boundOf f maximum).mapError .input
  match lower, upper with
  | some a, some b =>
    if b.lt a then refuse (.input (.emptyRange f.name.text minimum maximum))
  | _, _ => pure ()
  return .leaf target (.range (boundValue lower) (boundValue upper) minInclusive maxInclusive)

/-- The field has one of the tags. A text on its own is one tag. -/
def containsAny (target : Target) (values : Value) : Result Condition := do
  let f ← requireField target "contains" [.tag]
  let members ←
    match values with
    | .text s => pure [.text s]
    | values => values.members
  let tags ← members.mapM Value.display
  if tags.isEmpty then throw (.input (.noTags f.name.text))
  if tags.contains "" then throw (.input (.emptyTagAmong f.name.text))
  return .leaf target (.contains (tags.map .text))

def contains (target : Target) (value : Value) : Result Condition :=
  containsAny target (.list [value])

/-- The field has the words, or the phrase. -/
def terms (target : Target) (pattern exact : Value) : Result Condition := do
  let f ← requireField target "matches" [.text]
  match pattern with
  | .text s =>
    if isBlankText s then throw (.input (.emptyPattern f.name.text))
    else return .leaf target (.terms pattern exact)
  | _ => throw (.input (.emptyPattern f.name.text))

def distanceUnits : List String := ["m", "km", "mi", "ft"]

def unitOf (v : Value) : Result String :=
  match v with
  | .text s =>
    let unit := lowerCase s
    if distanceUnits.contains unit then .ok unit else .error (.input (.unknownUnit (.text unit)))
  | .bytes b =>
    let lowered := b.toList.map fun n => if 65 ≤ n.toNat ∧ n.toNat ≤ 90 then n + 32 else n
    .error (.input (.unknownUnit (.bytes ⟨lowered.toArray⟩)))
  | _ => .error (.misuse .noMember)

/-- The latitude beyond which the map has no squares, in degrees. -/
def latitudeBound (negative : Bool) : Numeral :=
  .double (Double.ofFraction negative 8505112878 100000000)

def within (target : Target) (longitude latitude radius unit : Value) : Result Condition := do
  discard (requireField target "within" [.geo])
  let unit ← unitOf unit
  if !(← longitude.within (.int (-180)) (.int 180)) then
    refuse (.input (.longitudeOutside longitude))
  if !(← latitude.within (latitudeBound true) (latitudeBound false)) then
    refuse (.input (.latitudeOutside latitude))
  if ← radius.lessThan (.int 0) then refuse (.input (.radiusNegative radius))
  return .leaf target (.within (.double (← longitude.toDouble)) (.double (← latitude.toDouble))
    (.double (← radius.toDouble)) (.text unit))

/-- The index parameters of the field of a nearest-neighbour predicate. -/
def requireVector (target : Target) : Result VectorParams :=
  match target with
  | .other v => .error (.notA "FieldDescriptor" v.typeName)
  | .field f _ =>
    match f.vectorParams? with
    | some params => .ok params
    | none => .error (.mismatch (.refused "vector_knn" f.type.label f.name.text ["vector"]))

/-- The field is one of the nearest to a vector. -/
def nearest (target : Target) (k vector scoreAlias : Value) : Result Condition := do
  let params ← requireVector target
  discard (checkNeighbours k (.int mostNeighbours))
  let encoded ← params.encode vector
  return .leaf target (.nearest k (.bytes encoded) scoreAlias)

def requireCondition (c : Condition) : Result Condition :=
  match c with
  | .foreign v => .error (.notA "ConditionNode" v.typeName)
  | c => .ok c

def allOf (children : List Condition) : Result Condition := do
  return .all (← children.mapM requireCondition)

def anyOf (children : List Condition) : Result Condition := do
  return .any (← children.mapM requireCondition)

def notOf (child : Condition) : Result Condition := do
  return .negation (← requireCondition child)

/-- Both of the operands hold. Operands that start with a plain value combine as values do. -/
def conjunction (left right : Condition) : Result Condition :=
  match left, right with
  | .foreign v, .foreign w => .foreign <$> v.meet w
  | .foreign _, _ => .error (.misuse .wrongType)
  | left, right => .ok (left.and right)

/-- One of the operands holds. Operands that start with a plain value combine as values do. -/
def choice (left right : Condition) : Result Condition :=
  match left, right with
  | .foreign v, .foreign w => .foreign <$> v.join w
  | .foreign _, _ => .error (.misuse .wrongType)
  | left, right => .ok (left.or right)

/-- The operand does not hold. A plain value is negated as values are. -/
def opposite (child : Condition) : Result Condition :=
  match child with
  | .foreign v => .foreign <$> v.complement
  | child => .ok child.not

end Condition

end TypedQuery
