import TypedQuery.Reply.Coercion

/-!
Replies of a store: the number of matches, then for every hit its key and, unless only keys were
asked for, one flat list of column names and values. A reply is decoded as a whole or not at all.
-/
set_option autoImplicit false

namespace TypedQuery

/-- Named values in the order in which the names first appear. -/
abbrev Columns := List (String × Value)

def Columns.set (columns : Columns) (name : String) (v : Value) : Columns :=
  if columns.any fun e => e.1 == name then
    columns.map fun e => if e.1 == name then (name, v) else e
  else columns ++ [(name, v)]

/-- One hit: its identifier and key, its declared fields, and what else was returned. -/
structure Record where
  identifier : String
  key : String
  fields : Columns
  extras : Columns

namespace Record

/-- The first number among the extra columns, typically a distance. -/
def score? (r : Record) : Option Double :=
  r.extras.findSome? fun e => match e.2 with
    | .double x => some x
    | _ => none

/-- The value of a declared field or an extra column. -/
def get (r : Record) (name : Value) : Result Value := do
  match ← name.asKey with
  | .text n =>
    match (r.fields.lookup n).or (r.extras.lookup n) with
    | some v => return v
    | none => throw (.misuse .missingKey)
  | _ => throw (.misuse .missingKey)

end Record

/-- A decoded reply: the number of all matches and the records of this page. -/
structure Decoded where
  total : Int
  records : List Record

namespace Decoded

def ids (d : Decoded) : List String := d.records.map Record.identifier

/-- The record at a position; negative positions count from the end. -/
def get (d : Decoded) (position : Int) : Result Record :=
  let index := if position < 0 then position + d.records.length else position
  if index < 0 then .error (.misuse .outOfRange)
  else
    match d.records[index.toNat]? with
    | some r => .ok r
    | none => .error (.misuse .outOfRange)

end Decoded

/-- A schema with the settings that its replies are decoded under. -/
structure Decoder where
  schema : Schema
  settings : Settings

namespace Decoder

/-- A key without the prefix of the schema's keys. -/
def identifierFor (d : Decoder) (key : String) : Result String :=
  let keyPrefix := d.schema.keyPrefix.toList
  if keyPrefix.isPrefixOf key.toList then .ok (String.ofList (key.toList.drop keyPrefix.length))
  else .error (.keyPrefix key d.schema.keyPrefix)

/-- The same for a value, which has to be a text. -/
def identifierOf (d : Decoder) (key : Value) : Result String :=
  match key with
  | .text s => d.identifierFor s
  | .bytes _ => .error (.misuse .wrongType)
  | _ => .error (.misuse .noMember)

/-- A column set in a record: a declared field by its type, a distance as a number, and anything
else as it is. Declared store names come first. -/
def setColumn (d : Decoder) (scoreFields : List Value) (r : Record) (name : String) (v : Value) :
    Result Record :=
  match d.schema.byStoreName? name with
  | some f =>
    match coerce d.settings.sentinels f v with
    | .ok value => .ok { r with fields := r.fields.set f.name.text value }
    | .error (.reply fault) => .error (.reply (.inRecord r.key fault))
    | .error e => .error e
  | none =>
    if (Value.text name).isAmong scoreFields then do
      let x ← readNumber d.settings.sentinels name v
      return { r with extras := r.extras.set name (.double x) }
    else .ok { r with extras := r.extras.set name v }

/-- The columns of a record set one after the other. -/
def setColumns (d : Decoder) (scoreFields : List Value) (r : Record) :
    List Value → Result Record
  | name :: v :: rest => do
    let name ← rawText name
    let r ← d.setColumn scoreFields r name v
    d.setColumns scoreFields r rest
  | _ => .ok r

/-- A record from its key and its flat list of columns. -/
def record (d : Decoder) (scoreFields : List Value) (key : String) (columns : List Value) :
    Result Record := do
  let identifier ← d.identifierFor key
  if columns.length % 2 ≠ 0 then throw (.reply (.oddFields key))
  d.setColumns scoreFields ⟨identifier, key, [], []⟩ columns

/-- The hits of a reply: a key, and the list after it if one follows. -/
def hits : List Value → List (Value × List Value)
  | [] => []
  | [key] => [(key, [])]
  | key :: next :: rest =>
    match next.items? with
    | some columns => (key, columns) :: hits rest
    | none => (key, []) :: hits (next :: rest)

/-- The members of a reply, of which there is at least one. -/
def replyItems (reply : Value) : Result (Value × List Value) :=
  match reply.items? with
  | some (first :: rest) => .ok (first, rest)
  | _ => refuse (.reply (.malformed reply))

def countOf (v : Value) : Result Int := do
  match readInt? (← rawText v) with
  | some n => return n
  | none => refuse (.reply (.badCount v))

def decodeCount (reply : Value) : Result Int := do
  let (first, _) ← replyItems reply
  countOf first

def decode (d : Decoder) (scoreFields : List Value) (reply : Value) : Result Decoded := do
  let (first, rest) ← replyItems reply
  let total ← countOf first
  let records ← (hits rest).mapM fun (key, columns) => do
    let key ← rawText key
    d.record scoreFields key columns
  return ⟨total, records⟩

end Decoder

end TypedQuery
