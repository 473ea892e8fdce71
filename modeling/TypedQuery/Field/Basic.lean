import TypedQuery.Field.Vector

/-!
Fields of an entity: the name callers use, the name the store uses, the type, and what the type
needs. Only vector fields carry index parameters and every vector field does.
-/
set_option autoImplicit false

namespace TypedQuery

inductive FieldType
  | text
  | tag
  | number
  | boolean
  | geo
  | date
  | vector
  deriving DecidableEq, Repr

namespace FieldType

def label : FieldType → String
  | .text => "text"
  | .tag => "tag"
  | .number => "number"
  | .boolean => "boolean"
  | .geo => "geo"
  | .date => "date"
  | .vector => "vector"

def all : List FieldType := [.text, .tag, .number, .boolean, .geo, .date, .vector]

def ofLabel? (s : String) : Option FieldType := all.find? fun t => t.label == s

end FieldType

/-- The type of a field together with what that type needs. -/
inductive FieldKind
  | text
  | tag
  | number
  | boolean
  | geo
  | date
  | vector (params : VectorParams)

def FieldKind.type : FieldKind → FieldType
  | .text => .text
  | .tag => .tag
  | .number => .number
  | .boolean => .boolean
  | .geo => .geo
  | .date => .date
  | .vector _ => .vector

/-- The kind of a type, given its index parameters if it has some; no kind if the type and the
parameters do not go together. -/
def FieldKind.ofType? : FieldType → Option VectorParams → Option FieldKind
  | .text, none => some .text
  | .tag, none => some .tag
  | .number, none => some .number
  | .boolean, none => some .boolean
  | .geo, none => some .geo
  | .date, none => some .date
  | .vector, some params => some (.vector params)
  | _, _ => none

structure Field where
  name : FieldName
  kind : FieldKind
  storeName : FieldName
  sortable : Value
  separator : Value
  /-- Does a tag field hold several tags? -/
  multi : Value

namespace Field

def type (f : Field) : FieldType := f.kind.type

def vectorParams? (f : Field) : Option VectorParams :=
  match f.kind with
  | .vector params => some params
  | _ => none

/-- A field as text: the store's name is shown if it is another one. -/
def literal (f : Field) : String :=
  let stored :=
    if f.storeName ≠ f.name then ", store_name='" ++ f.storeName.text ++ "'" else ""
  "FieldDescriptor('" ++ f.name.text ++ "', " ++ f.type.label ++ stored ++ ")"

/-- The checks on a field whose type is known: index parameters stand on vector fields and
nowhere else, and only tag fields hold several values. -/
def assemble (name storeName : FieldName) (type : FieldType) (params : Option VectorParams)
    (sortable separator multi : Value) : Except SchemaFault Field :=
  match FieldKind.ofType? type params with
  | none =>
    if type = .vector then .error (.vectorParamsMissing name.text)
    else .error (.vectorParamsUnwanted name.text type.label)
  | some kind =>
    if multi.truthy && type ≠ .tag then .error (.multiNotTag name.text type.label)
    else .ok { name, kind, storeName, sortable, separator, multi }

/-- A field from named arguments and its index parameters. -/
def ofArguments (given : Arguments) (params : Option VectorParams) : Result Field := do
  given.check ["name", "type"] ["store_name", "sortable", "separator", "multi"]
  let blame {α : Type} (r : Except InputFault α) : Result α :=
    r.mapError fun f => .schema (.input f)
  let name ← blame (checkFieldName (given.get "name" .null))
  let storeName ←
    match given.get "store_name" .null with
    | .null => pure name
    | v => blame (checkFieldName v)
  let typeValue := given.get "type" .null
  let type ←
    match typeValue with
    | .text s =>
      match FieldType.ofLabel? s with
      | some type => pure type
      | none => throw (.schema (.unknownType (.text name.text) s))
    | v => throw (.schema (.unknownType (.text name.text) (← v.display)))
  (assemble name storeName type params (given.get "sortable" (.bool false))
    (given.get "separator" (.text "|")) (given.get "multi" (.bool false))).mapError .schema

/-- Equal in every part, values by meaning. -/
def same (a b : Field) : Bool :=
  let sameKind :=
    match a.kind, b.kind with
    | .vector p, .vector q => p.same q
    | k, l => k.type = l.type
  a.name = b.name && sameKind && a.storeName = b.storeName && a.sortable.same b.sortable
    && a.separator.same b.separator && a.multi.same b.multi

/-- Equal in every part, representation included. -/
def identical (a b : Field) : Bool :=
  let sameKind :=
    match a.kind, b.kind with
    | .vector p, .vector q => p.identical q
    | k, l => k.type = l.type
  a.name = b.name && sameKind && a.storeName = b.storeName && a.sortable.identical b.sortable
    && a.separator.identical b.separator && a.multi.identical b.multi

theorem identical_self (f : Field) : f.identical f = true := by
  cases h : f.kind <;> simp [identical, h, VectorParams.identical, Value.identical_self]

end Field

end TypedQuery
