import TypedQuery.Limits
import TypedQuery.Value.Arguments
import TypedQuery.Text.Casing

/-!
How a vector field is indexed: the algorithm, the distance, the number of components and their
type. What is left over tunes the index and is handed on unread.
-/
set_option autoImplicit false

namespace TypedQuery

inductive VectorAlgorithm
  | flat
  | hnsw
  deriving DecidableEq, Repr

inductive DistanceMetric
  | l2
  | ip
  | cosine
  deriving DecidableEq, Repr

inductive ComponentType
  | float32
  | float64
  deriving DecidableEq, Repr

def VectorAlgorithm.label : VectorAlgorithm → String
  | .flat => "FLAT"
  | .hnsw => "HNSW"

def DistanceMetric.label : DistanceMetric → String
  | .l2 => "L2"
  | .ip => "IP"
  | .cosine => "COSINE"

def ComponentType.label : ComponentType → String
  | .float32 => "FLOAT32"
  | .float64 => "FLOAT64"

def ComponentType.format : ComponentType → BinaryFormat
  | .float32 => .single
  | .float64 => .double

/-- The member of a family whose label is the upper case of a value's text. -/
def variantOf {α : Type} (family : String) (label : α → String) (members : List α) (v : Value) :
    Except SchemaFault α :=
  match v.display? with
  | none => .error .unwrittenVariant
  | some shown =>
    let given := upperCase shown
    match members.find? fun m => label m == given with
    | some m => .ok m
    | none => .error (.unknownVariant given family)

structure VectorParams where
  algorithm : VectorAlgorithm
  dimension : Nat
  metric : DistanceMetric
  component : ComponentType
  initialCap : Value
  blockSize : Value
  maxEdges : Value
  buildCandidates : Value
  queryCandidates : Value
  bounded : 1 ≤ dimension ∧ dimension ≤ largestDimension

namespace VectorParams

def componentBytes (p : VectorParams) : Nat := p.component.format.bytes

def vectorBytes (p : VectorParams) : Nat := p.dimension * p.componentBytes

/-- Parameters from named arguments. The algorithm is looked at first, then the distance, the
component type and the dimension. -/
def ofArguments (given : Arguments) : Result VectorParams := do
  given.check ["algorithm", "dim", "distance_metric"]
    ["initial_cap", "block_size", "vector_type", "m", "ef_construction", "ef_runtime"]
  let blame {α : Type} (r : Except SchemaFault α) : Result α := r.mapError .schema
  let algorithm ← blame (variantOf "VectorAlgorithm" VectorAlgorithm.label [.flat, .hnsw]
    (given.get "algorithm" .null))
  let metric ← blame (variantOf "DistanceMetric" DistanceMetric.label [.l2, .ip, .cosine]
    (given.get "distance_metric" .null))
  let component ← blame (variantOf "VectorType" ComponentType.label [.float32, .float64]
    (given.get "vector_type" (.text "FLOAT32")))
  match h : checkDimension (given.get "dim" .null) (.int 1) (.int largestDimension) with
  | .error e => throw e.inSchema
  | .ok dimension =>
    return {
      algorithm, metric, component
      dimension := dimension.toNat
      initialCap := given.get "initial_cap" .null
      blockSize := given.get "block_size" .null
      maxEdges := given.get "m" .null
      buildCandidates := given.get "ef_construction" .null
      queryCandidates := given.get "ef_runtime" .null
      bounded := by have := checkDimension_bounds h; omega }

def requiredEntry (declaration : Value) (key : String) : Result Value :=
  match declaration with
  | .map entries =>
    match Value.lookup? entries key with
    | some v => .ok v
    | none => .error (.schema (.vectorKeyMissing key))
  | _ => .error (.misuse .wrongType)

/-- Parameters from a declaration. The distance is the cosine unless declared, and the component
type may be declared under two names. -/
def ofDeclaration (declaration : Value) : Result VectorParams := do
  let algorithm ← requiredEntry declaration "algorithm"
  let dimension ← requiredEntry declaration "dim"
  let entries ← declaration.entries
  let get (key : String) (absent : Value) : Value := (Value.lookup? entries key).getD absent
  ofArguments [
    ("algorithm", algorithm),
    ("dim", dimension),
    ("distance_metric", get "distance_metric" (.text "COSINE")),
    ("initial_cap", get "initial_cap" .null),
    ("block_size", get "block_size" .null),
    ("vector_type", get "type" (get "vector_type" (.text "FLOAT32"))),
    ("m", get "m" .null),
    ("ef_construction", get "ef_construction" .null),
    ("ef_runtime", get "ef_runtime" .null)]

/-- Equal in every part, values by meaning. -/
def same (a b : VectorParams) : Bool :=
  a.algorithm = b.algorithm && a.dimension = b.dimension && a.metric = b.metric
    && a.component = b.component && a.initialCap.same b.initialCap
    && a.blockSize.same b.blockSize && a.maxEdges.same b.maxEdges
    && a.buildCandidates.same b.buildCandidates && a.queryCandidates.same b.queryCandidates

/-- Equal in every part, representation included. -/
def identical (a b : VectorParams) : Bool :=
  a.algorithm = b.algorithm && a.dimension = b.dimension && a.metric = b.metric
    && a.component = b.component && a.initialCap.identical b.initialCap
    && a.blockSize.identical b.blockSize && a.maxEdges.identical b.maxEdges
    && a.buildCandidates.identical b.buildCandidates
    && a.queryCandidates.identical b.queryCandidates

end VectorParams

end TypedQuery
