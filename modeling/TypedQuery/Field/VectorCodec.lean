import TypedQuery.Field.Vector

/-!
Vectors as bytes: the components in order, each in its binary format with the lowest byte first.
Bytes given by a caller are taken as they are; numbers are rounded to the component type. Either
way the length has to be that of the field's vectors.
-/
set_option autoImplicit false

namespace TypedQuery

namespace VectorParams

/-- Refuses a length other than that of the field's vectors. -/
def checkLength (p : VectorParams) (length : Nat) : Result Unit :=
  if length = p.vectorBytes then .ok ()
  else .error (.vectorLength length p.vectorBytes p.dimension p.componentBytes p.component.label)

/-- The same for a value, which has to have a length. -/
def checkValueLength (p : VectorParams) (v : Value) : Result Unit := do
  p.checkLength (← v.length)

end VectorParams

/-! ## Writing -/

/-- A number given as a component. Nothing at all stands for a missing number. -/
def componentOf (v : Value) : Result Double :=
  match v with
  | .null => .ok .notANumber
  | v =>
    match v.toDouble with
    | .error (.misuse .overflow) => .error (.misuse .overflow)
    | .error _ => .error (.input .vectorNotNumeric)
    | .ok x => .ok x

mutual

/-- The lengths of nested sequences from the outside in, if those of one level agree. -/
def shapeOf : Value → Option (List Nat)
  | .list items => shapeOfItems items
  | .tuple items => shapeOfItems items
  | _ => some []

def shapeOfItems : List Value → Option (List Nat)
  | [] => some [0]
  | v :: rest =>
    match shapeOf v with
    | none => none
    | some shape => (sharedShape shape rest).map fun n => (n + 1) :: shape

/-- The number of values, if each has the shape. -/
def sharedShape (shape : List Nat) : List Value → Option Nat
  | [] => some 0
  | v :: rest => if shapeOf v = some shape then (sharedShape shape rest).map (· + 1) else none

end

mutual

/-- The components of nested sequences, in order. -/
def componentsOf : Value → Result (List Double)
  | .list items => componentsOfItems items
  | .tuple items => componentsOfItems items
  | v => do return [← componentOf v]

/-- The components of values, in order. -/
def componentsOfItems : List Value → Result (List Double)
  | [] => .ok []
  | v :: rest => do return (← componentsOf v) ++ (← componentsOfItems rest)

end

namespace ComponentType

/-- The bytes of a number rounded to a component type. -/
def bytesOf (c : ComponentType) (x : Double) : List UInt8 :=
  c.format.littleEndian (c.format.encode x.datum)

/-- Is the number finite once it is rounded to a component type? -/
def holds (c : ComponentType) (x : Double) : Bool :=
  (c.format.decode (c.format.encode x.datum)).isFinite

/-- The number that the bytes of one component stand for. -/
def ofBytes (c : ComponentType) (bytes : List UInt8) : Double :=
  .ofDatum (c.format.decode (BinaryFormat.ofLittleEndian bytes))

end ComponentType

/-- The most levels of sequences within each other that are looked through. -/
def deepestNesting : Nat := 32

namespace VectorParams

def encode (p : VectorParams) (v : Value) : Result ByteArray := do
  match v with
  | .bytes b =>
    p.checkLength b.size
    return b
  | v =>
    match shapeOf v with
    | none => throw (.input .vectorNotNumeric)
    | some shape =>
      if deepestNesting < shape.length then throw (.input .vectorNotNumeric)
      let components ← componentsOf v
      if shape.length ≠ 1 then throw (.input (.vectorNotFlat shape.length))
      if !components.all p.component.holds then throw (.input .vectorNotFinite)
      let bytes := components.flatMap p.component.bytesOf
      p.checkLength bytes.length
      return ⟨bytes.toArray⟩

/-! ## Reading -/

/-- Bytes cut into pieces of `size`, the last one possibly shorter. -/
def pieces (size : Nat) (bytes : List UInt8) : List (List UInt8) :=
  if _h : bytes = [] ∨ size = 0 then []
  else bytes.take size :: pieces size (bytes.drop size)
termination_by bytes.length
decreasing_by
  have : 0 < bytes.length := List.length_pos_iff.2 fun e => _h (.inl e)
  simp only [List.length_drop]
  omega

/-- The components of a stored vector, each as the double of the same value. -/
def decode (p : VectorParams) (v : Value) : Result (List Double) := do
  p.checkValueLength v
  match v with
  | .bytes b => return (pieces p.componentBytes b.toList).map p.component.ofBytes
  | _ => throw (.misuse .wrongType)

end VectorParams

end TypedQuery
