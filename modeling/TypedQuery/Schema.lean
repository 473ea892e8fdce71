import TypedQuery.Field.Declaration

/-!
Schemas: the fields of one entity in the order of their declaration, the prefix of its keys, the
name of its index and the form in which its records are stored. No two fields share a name, and no
two share a store name, so that either name finds at most one field.
-/
set_option autoImplicit false

namespace TypedQuery

inductive Storage
  | hash
  | json
  deriving DecidableEq, Repr

def Storage.label : Storage → String
  | .hash => "HASH"
  | .json => "JSON"

/-- The name of an entity or an index: any value that can be written, with its text. -/
structure ShownName where
  value : Value
  shown : String
  written : value.display? = some shown

def ShownName.text (s : String) : ShownName := ⟨.text s, s, rfl⟩

def ShownName.ofValue? (v : Value) : Option ShownName :=
  match h : v.display? with
  | some shown => some ⟨v, shown, h⟩
  | none => none

/-- The fields of an entity and where its records are. -/
structure Schema where
  entityName : ShownName
  fields : List Field
  keyPrefix : String
  indexName : ShownName
  storage : Storage
  names_nodup : (fields.map Field.name).Nodup
  storeNames_nodup : (fields.map Field.storeName).Nodup
  keyPrefix_ne : keyPrefix ≠ ""

namespace Schema

def names (s : Schema) : List String := s.fields.map (·.name.text)

def storeNames (s : Schema) : List String := s.fields.map (·.storeName.text)

def byName? (s : Schema) (name : String) : Option Field :=
  s.fields.find? fun f => f.name.text == name

def byStoreName? (s : Schema) (name : String) : Option Field :=
  s.fields.find? fun f => f.storeName.text == name

/-! ## Construction -/

/-- The first fault of candidates for fields, looked at in order. `before` holds the fields
already passed, last first. -/
def firstFault? (before : List Field) : List (Value ⊕ Field) → Option SchemaFault
  | [] => none
  | .inl v :: _ => some (.notField v.typeName)
  | .inr f :: rest =>
    if f.name ∈ before.map Field.name then some (.duplicateName f.name.text)
    else if f.storeName ∈ before.map Field.storeName then
      some (.duplicateStoreName f.storeName.text)
    else firstFault? (f :: before) rest

def fieldsOf (candidates : List (Value ⊕ Field)) : List Field :=
  candidates.filterMap fun
    | .inl _ => none
    | .inr f => some f

/-- Candidates without a fault have pairwise different names and store names. -/
theorem nodup_of_firstFault? {candidates : List (Value ⊕ Field)} {before : List Field}
    (h : firstFault? before candidates = none)
    (names : (before.map Field.name).Nodup) (stores : (before.map Field.storeName).Nodup) :
    ((before.reverse ++ fieldsOf candidates).map Field.name).Nodup
      ∧ ((before.reverse ++ fieldsOf candidates).map Field.storeName).Nodup := by
  induction candidates generalizing before with
  | nil =>
    simp only [fieldsOf, List.filterMap_nil, List.append_nil, List.map_reverse]
    exact ⟨(List.reverse_perm _).nodup_iff.2 names, (List.reverse_perm _).nodup_iff.2 stores⟩
  | cons c rest ih =>
    cases c with
    | inl v => simp [firstFault?] at h
    | inr f =>
      simp only [firstFault?] at h
      split at h
      · simp at h
      · split at h
        · simp at h
        · rename_i newName newStore
          have step := ih h (by simp only [List.map_cons, List.nodup_cons]; exact ⟨newName, names⟩)
            (by simp only [List.map_cons, List.nodup_cons]; exact ⟨newStore, stores⟩)
          simpa [fieldsOf] using step

def storageOf (v : Value) : Result Storage :=
  match v with
  | .text s =>
    let label := upperCase s
    if label = "HASH" then .ok .hash
    else if label = "JSON" then .ok .json
    else .error (.schema (.unknownStorage s))
  | .bytes b =>
    .error (.schema (.unknownStorage (quotedBytes b)))
  | _ => .error (.misuse .noMember)

/-- A key prefix passes unless it is empty. -/
theorem checkKeyPrefix_ne {v : Value} {s : String} (h : checkKeyPrefix v = .ok s) : s ≠ "" := by
  unfold checkKeyPrefix at h
  split at h
  · split at h
    · simp at h
    · cases h; assumption
  · simp at h

/-- What else a schema is told: unless given, the prefix and the index are named after the
entity. -/
structure Placement where
  keyPrefix : Value := .null
  indexName : Option ShownName := none
  storage : Value := .text "HASH"

def ofCandidates (entityName : ShownName) (candidates : List (Value ⊕ Field)) (place : Placement) :
    Result Schema := do
  if !entityName.value.truthy then throw (.schema .noEntityName)
  let keyPrefix :=
    match place.keyPrefix with
    | .null => .text (entityName.shown ++ ":")
    | v => v
  match hp : checkKeyPrefix keyPrefix with
  | .error fault => throw (.schema (.input fault))
  | .ok keyPrefix =>
    let storage ← storageOf place.storage
    match hf : firstFault? [] candidates with
    | some fault => throw (.schema fault)
    | none =>
      have nodup := nodup_of_firstFault? hf List.nodup_nil List.nodup_nil
      return {
        entityName, keyPrefix, storage
        fields := fieldsOf candidates
        indexName := place.indexName.getD (.text (entityName.shown ++ ":index"))
        names_nodup := by simpa using nodup.1
        storeNames_nodup := by simpa using nodup.2
        keyPrefix_ne := checkKeyPrefix_ne hp }

/-- A schema from declarations by name, where the names have to be such as can be looked up; all
declarations are read before anything else. -/
def ofDeclarations (entityName : ShownName) (declarations : List (Value × Value))
    (place : Placement) : Result Schema := do
  discard (declarations.mapM fun e => e.1.asKey)
  let fields ← declarations.mapM fun (name, declaration) =>
    Field.ofDeclaration name declaration
  ofCandidates entityName (fields.map .inr) place

/-! ## Lookup -/

def get (s : Schema) (name : Value) : Result Field := do
  match ← name.asKey with
  | .text n =>
    match s.byName? n with
    | some f => return f
    | none => refuse (.schema (.undeclared name s.entityName.shown))
  | _ => refuse (.schema (.undeclared name s.entityName.shown))

def contains (s : Schema) (name : Value) : Result Bool := do
  match ← name.asKey with
  | .text n => return (s.byName? n).isSome
  | _ => return false

/-- The field that a value names in the store, if there is one. -/
def byStoreName (s : Schema) (name : Value) : Result (Option Field) := do
  match ← name.asKey with
  | .text n => return s.byStoreName? n
  | _ => return none

def keyOf (s : Schema) (identifier : String) : String := s.keyPrefix ++ identifier

/-- The key of an identifier that may be any value. -/
def makeKey (s : Schema) (identifier : Value) : Result String := s.keyOf <$> identifier.display

/-- Equal in every part, values by meaning. -/
def same (a b : Schema) : Bool :=
  a.entityName.value.same b.entityName.value && a.fields.length == b.fields.length
    && (a.fields.zip b.fields).all (fun (f, g) => f.same g)
    && a.keyPrefix == b.keyPrefix && a.indexName.value.same b.indexName.value && a.storage == b.storage

end Schema

end TypedQuery
