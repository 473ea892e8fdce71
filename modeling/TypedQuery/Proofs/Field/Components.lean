import Mathlib.Data.List.Forall2
import TypedQuery.Field.VectorCodec
import TypedQuery.Proofs.Condition.Built
import TypedQuery.Proofs.Number.Widening

/-! # Components of vectors

A vector is read from its bytes component by component and written back. What is read comes back as
the same bytes, and a list that is written comes back with each number rounded to the nearest
component. -/

namespace TypedQuery
set_option autoImplicit false

open BinaryFormat

/-! ## Bytes -/

namespace BinaryFormat

theorem ofLittleEndian_lt (bytes : List UInt8) : ofLittleEndian bytes < 256 ^ bytes.length := by
  induction bytes with
  | nil => exact Nat.one_pos
  | cons b rest ih =>
    have small := b.toNat_lt
    rw [ofLittleEndian, List.length_cons, Nat.pow_succ]
    omega

theorem ofLittleEndian_range (k : Nat) {pattern : Nat} (bounded : pattern < 256 ^ k) :
    ofLittleEndian ((List.range k).map fun i => UInt8.ofNat (pattern / Nat.pow 256 i % 256))
      = pattern := by
  induction k generalizing pattern with
  | zero =>
    have zero : pattern = 0 := by simpa using bounded
    rw [zero]
    rfl
  | succ k ih =>
    have shorter : pattern / 256 < 256 ^ k := by
      rw [Nat.pow_succ] at bounded
      omega
    have tail : ∀ i, pattern / Nat.pow 256 (i + 1) % 256 = pattern / 256 / Nat.pow 256 i % 256 := by
      intro i
      rw [Nat.pow_eq, Nat.pow_eq, Nat.pow_succ, Nat.mul_comm, Nat.div_div_eq_div_mul]
    have head : (UInt8.ofNat (pattern / Nat.pow 256 0 % 256)).toNat = pattern % 256 := by
      simp
    rw [List.range_succ_eq_map, List.map_cons, List.map_map, ofLittleEndian, head]
    simp only [Function.comp_def, Nat.succ_eq_add_one, tail]
    rw [ih shorter]
    omega

theorem range_ofLittleEndian (bytes : List UInt8) :
    (List.range bytes.length).map
      (fun i => UInt8.ofNat (ofLittleEndian bytes / Nat.pow 256 i % 256)) = bytes := by
  induction bytes with
  | nil => rfl
  | cons b rest ih =>
    have small := b.toNat_lt
    have tail : ∀ i, ofLittleEndian (b :: rest) / Nat.pow 256 (i + 1) % 256
        = ofLittleEndian rest / Nat.pow 256 i % 256 := by
      intro i
      have next : ofLittleEndian (b :: rest) / 256 = ofLittleEndian rest := by
        rw [ofLittleEndian]
        omega
      rw [Nat.pow_eq, Nat.pow_eq, Nat.pow_succ, Nat.mul_comm, ← Nat.div_div_eq_div_mul, next]
    have head : UInt8.ofNat (ofLittleEndian (b :: rest) / Nat.pow 256 0 % 256) = b := by
      have low : ofLittleEndian (b :: rest) / Nat.pow 256 0 % 256 = b.toNat := by
        rw [ofLittleEndian, Nat.pow_eq, Nat.pow_zero, Nat.div_one]
        omega
      rw [low, UInt8.ofNat_toNat]
    rw [List.length_cons, List.range_succ_eq_map, List.map_cons, List.map_map, head]
    simp only [Function.comp_def, Nat.succ_eq_add_one, tail, ih]

end BinaryFormat

theorem toList_eq (b : ByteArray) : b.toList = b.data.toList := by
  have loop : ∀ n i r, b.size - i = n →
      ByteArray.toList.loop b i r = r.reverse ++ b.data.toList.drop i := by
    intro n
    induction n with
    | zero =>
      intro i r done
      have past : b.data.toList.length ≤ i := by
        rw [Array.length_toList]
        exact Nat.le_of_sub_eq_zero done
      rw [ByteArray.toList.loop, if_neg (Nat.not_lt.2 (Nat.le_of_sub_eq_zero done)),
        List.drop_eq_nil_of_le past, List.append_nil]
    | succ n ih =>
      intro i r left
      have inside : i < b.size := by omega
      have bound : i < b.data.toList.length := by
        rw [Array.length_toList]
        exact inside
      have here : b.get! i = b.data.toList[i] := by
        show b.data[i]! = _
        rw [Array.getElem_toList]
        exact getElem!_pos b.data i inside
      rw [ByteArray.toList.loop, if_pos inside, ih (i + 1) _ (by omega), List.reverse_cons,
        List.append_assoc, here, List.singleton_append, List.drop_eq_getElem_cons bound]
  rw [ByteArray.toList, loop b.size 0 [] (Nat.sub_zero _)]
  rfl

/-! ## One component -/

namespace ComponentType

/-- The second number is the first one rounded to a component: the nearest magnitude, a tie going to
the even pattern and the sign kept. What is rounded beyond the largest magnitude is infinite. -/
inductive Rounds (c : ComponentType) : Datum → Datum → Prop
  | notANumber : Rounds c .notANumber .notANumber
  | infinite (negative : Bool) : Rounds c (.infinite negative) (.infinite negative)
  | overflow {negative : Bool} {s : Nat} {e : Int} :
    c.format.Nearest (s * 2 ^ e) c.format.infinityPattern →
    Rounds c (.finite negative s e) (.infinite negative)
  | finite {negative : Bool} {s m s' : Nat} {e e' : Int} : m < c.format.infinityPattern →
    c.format.Nearest (s * 2 ^ e) m → (s' * 2 ^ e' : ℚ) = c.format.magnitude m →
    Rounds c (.finite negative s e) (.finite negative s' e')

/-- A number written as a component and read again. -/
def rounding (c : ComponentType) (x : Double) : Double :=
  .ofDatum (c.format.decode (c.format.encode x.datum))

theorem quietPattern_bounds (c : ComponentType) :
    c.format.infinityPattern < c.format.quietPattern ∧ c.format.quietPattern < c.format.signPattern := by
  cases c <;> decide

theorem decode_quietPattern (c : ComponentType) : c.format.decode c.format.quietPattern = .notANumber :=
  decode_large false c.quietPattern_bounds.2 c.quietPattern_bounds.1

theorem two_pow_width (c : ComponentType) : 2 ^ c.format.width = 256 ^ c.format.bytes := by
  cases c <;> decide

theorem encode_lt (c : ComponentType) (d : Datum) : c.format.encode d < 2 ^ c.format.width := by
  have bounded : ∀ negative, ∀ m ≤ c.format.infinityPattern,
      c.format.signed negative m < 2 ^ c.format.width := by
    intro negative m le
    exact signed_lt negative (Nat.lt_of_le_of_lt le c.format.infinityPattern_lt)
  cases d with
  | notANumber => exact signed_lt false c.quietPattern_bounds.2
  | infinite negative => exact bounded negative _ le_rfl
  | finite negative s e => exact bounded negative _ (magnitudePattern_le ..)

theorem ofBytes_bytesOf (c : ComponentType) (x : Double) : c.ofBytes (c.bytesOf x) = c.rounding x := by
  have bounded := c.encode_lt x.datum
  rw [c.two_pow_width] at bounded
  rw [ofBytes, bytesOf, littleEndian, ofLittleEndian_range _ bounded, rounding]

theorem holds_eq (c : ComponentType) (x : Double) : c.holds x = (c.rounding x).isFinite := by
  have infinite : ∀ negative, (Double.ofDatum (.infinite negative)).isFinite = false := by
    intro negative
    rw [Double.isFinite, Double.datum_infinite]
    rfl
  unfold holds rounding
  cases x.datum with
  | notANumber =>
    rw [encode, c.decode_quietPattern, Double.isFinite, Double.datum_notANumber]
  | infinite negative =>
    rw [encode, signed_infinity, infinite]
    rfl
  | finite negative s e =>
    obtain ⟨m, written, near⟩ := encode_finite c.fine negative s e
    rw [written, decode_signed negative near.le_infinity]
    rcases near.le_infinity.eq_or_lt with rfl | below
    · rw [datumOf, if_pos rfl, infinite]
      rfl
    · obtain ⟨k, inside, value⟩ := c.exists_double below
      rw [datumOf_of_lt negative below, Double.isFinite, Double.datum_ofDatum inside value]
      rfl

/-- Writing a number and reading it again rounds it. -/
theorem rounds_rounding (c : ComponentType) (x : Double) : c.Rounds x.datum (c.rounding x).datum := by
  unfold rounding
  cases x.datum with
  | notANumber =>
    rw [encode, c.decode_quietPattern, Double.datum_notANumber]
    exact .notANumber
  | infinite negative =>
    rw [encode, signed_infinity, Double.datum_infinite]
    exact .infinite negative
  | finite negative s e =>
    obtain ⟨m, written, near⟩ := encode_finite c.fine negative s e
    rw [written, decode_signed negative near.le_infinity]
    rcases near.le_infinity.eq_or_lt with rfl | below
    · rw [datumOf, if_pos rfl, Double.datum_infinite]
      exact .overflow near
    · obtain ⟨k, inside, value⟩ := c.exists_double below
      rw [datumOf_of_lt negative below, Double.datum_ofDatum inside value]
      exact .finite below near value

/-- A component that is read is written back as the same bytes if it is finite, and is held by no
component otherwise. -/
theorem bytesOf_ofBytes (c : ComponentType) {bytes : List UInt8}
    (whole : bytes.length = c.format.bytes) :
    c.holds (c.ofBytes bytes) = (c.ofBytes bytes).isFinite
      ∧ ((c.ofBytes bytes).isFinite = true → c.bytesOf (c.ofBytes bytes) = bytes) := by
  have bounded := ofLittleEndian_lt bytes
  rw [whole, ← c.two_pow_width] at bounded
  obtain ⟨negative, m, pattern, small⟩ := eq_signed bounded
  rw [holds_eq]
  unfold rounding ofBytes
  rw [pattern]
  rcases Nat.lt_or_ge c.format.infinityPattern m with large | inside
  · rw [decode_large negative small large]
    have missing : (Double.ofDatum .notANumber).isFinite = false := by decide
    rw [missing, Double.datum_notANumber, encode, c.decode_quietPattern]
    refine ⟨missing, fun finite => ?_⟩
    cases finite
  · rw [decode_signed negative inside]
    rcases inside.eq_or_lt with rfl | below
    · rw [datumOf, if_pos rfl, Double.datum_infinite, encode, signed_infinity, Double.isFinite,
        Double.datum_infinite]
      refine ⟨rfl, fun finite => ?_⟩
      cases finite
    · obtain ⟨k, held, value⟩ := c.exists_double below
      have wide : (c.format.magnitude m : ℚ) = double.significand k * 2 ^ double.place k := value.symm
      have back := encode_of_magnitude c.fine negative inside wide
      rw [datumOf_of_lt negative below, Double.datum_ofDatum held value, back,
        decode_signed negative inside, datumOf_of_lt negative below]
      refine ⟨rfl, fun _ => ?_⟩
      rw [bytesOf, Double.datum_ofDatum held value, back, ← pattern, littleEndian, ← whole,
        range_ofLittleEndian]

end ComponentType

/-! ## Pieces -/

namespace VectorParams

theorem pieces_flatten {size : Nat} (positive : 0 < size) {ws : List (List UInt8)}
    (each : ∀ w ∈ ws, w.length = size) : pieces size ws.flatten = ws := by
  induction ws with
  | nil => simp [pieces]
  | cons w ws ih =>
    have first := each w (List.mem_cons_self ..)
    have ne : w ++ ws.flatten ≠ [] := by
      intro empty
      rw [(List.append_eq_nil_iff.1 empty).1] at first
      exact positive.ne first
    rw [List.flatten_cons, pieces, dif_neg (by rintro (empty | zero); exacts [ne empty, positive.ne' zero]),
      List.take_left' first, List.drop_left' first,
      ih fun w' hw => each w' (List.mem_cons_of_mem _ hw)]

/-- Bytes for a number of components are these components in a row. -/
theorem exists_pieces {size n : Nat} {bytes : List UInt8} (length : bytes.length = n * size) :
    ∃ ws : List (List UInt8), ws.length = n ∧ (∀ w ∈ ws, w.length = size) ∧ ws.flatten = bytes := by
  induction n generalizing bytes with
  | zero =>
    have empty : bytes = [] := List.length_eq_zero_iff.1 (by omega)
    exact ⟨[], rfl, by simp, by simp [empty]⟩
  | succ n ih =>
    rw [Nat.add_mul, Nat.one_mul] at length
    have rest : (bytes.drop size).length = n * size := by
      rw [List.length_drop]
      omega
    obtain ⟨ws, count, each, joined⟩ := ih rest
    refine ⟨bytes.take size :: ws, by simp [count], ?_, by simp [joined]⟩
    intro w hw
    rcases List.mem_cons.1 hw with rfl | hw
    · rw [List.length_take]
      omega
    · exact each w hw

/-! ## Lists of doubles -/

variable {p : VectorParams} {xs : List Double}

theorem shapeOf_doubles (xs : List Double) : shapeOf (.list (xs.map .double)) = some [xs.length] := by
  have shared : ∀ ys : List Double, sharedShape [] (ys.map .double) = some ys.length := by
    intro ys
    induction ys with
    | nil => rfl
    | cons y ys ih => simp [sharedShape, shapeOf, ih]
  cases xs with
  | nil => rfl
  | cons x xs => simp [shapeOf, shapeOfItems, shared]

theorem componentsOf_doubles (xs : List Double) : componentsOf (.list (xs.map .double)) = .ok xs := by
  rw [componentsOf]
  induction xs with
  | nil => rfl
  | cons x xs ih =>
    have one : componentsOf (.double x) = .ok [x] := rfl
    rw [List.map_cons, componentsOfItems, one, ih]
    rfl

theorem encode_doubles (p : VectorParams) (xs : List Double) :
    p.encode (.list (xs.map .double))
      = if xs.all p.component.holds then
          (p.checkLength (xs.flatMap p.component.bytesOf).length).map
            fun _ => ⟨(xs.flatMap p.component.bytesOf).toArray⟩
        else .error (.input .vectorNotFinite) := by
  have shallow : ¬ deepestNesting < [xs.length].length := by simp [deepestNesting]
  have flat : ¬ [xs.length].length ≠ 1 := by simp
  rw [encode, shapeOf_doubles]
  · dsimp only
    rw [if_neg shallow, componentsOf_doubles, ok_bind, if_neg flat]
    cases xs.all p.component.holds with
    | true => cases p.checkLength (xs.flatMap p.component.bytesOf).length <;> rfl
    | false => rfl
  · exact fun _ => Value.noConfusion

theorem length_component (p : VectorParams) (x : Double) :
    (p.component.bytesOf x).length = p.componentBytes := by
  rw [ComponentType.bytesOf, littleEndian, List.length_map, List.length_range]
  rfl

theorem length_bytesOf (p : VectorParams) (xs : List Double) :
    (xs.flatMap p.component.bytesOf).length = xs.length * p.componentBytes := by
  induction xs with
  | nil => simp
  | cons x xs ih =>
    rw [List.flatMap_cons, List.length_append, ih, length_component, List.length_cons, Nat.add_mul]
    omega

theorem encode_of_holds (count : xs.length = p.dimension)
    (held : ∀ x ∈ xs, p.component.holds x = true) :
    p.encode (.list (xs.map .double)) = .ok ⟨(xs.flatMap p.component.bytesOf).toArray⟩ := by
  have all : xs.all p.component.holds = true := List.all_eq_true.2 held
  have fits : p.checkLength (xs.flatMap p.component.bytesOf).length = .ok () := by
    rw [length_bytesOf, count]
    exact if_pos rfl
  rw [encode_doubles, all, if_pos rfl, fits]
  rfl

theorem encode_of_unheld (unheld : ∃ x ∈ xs, p.component.holds x = false) :
    p.encode (.list (xs.map .double)) = .error (.input .vectorNotFinite) := by
  have all : xs.all p.component.holds = false := by simpa using unheld
  rw [encode_doubles, all, if_neg Bool.false_ne_true]

theorem componentBytes_pos (p : VectorParams) : 0 < p.componentBytes := by
  have bytes : ∀ c : ComponentType, 0 < c.format.bytes := by
    intro c
    cases c <;> decide
  exact bytes p.component

theorem decode_bytes {b : ByteArray} (size : b.size = p.vectorBytes) {ws : List (List UInt8)}
    (each : ∀ w ∈ ws, w.length = p.componentBytes) (joined : ws.flatten = b.data.toList) :
    p.decode (.bytes b) = .ok (ws.map p.component.ofBytes) := by
  have fits : p.checkValueLength (.bytes b) = .ok () := if_pos size
  rw [decode, fits, ok_bind, pure_eq_ok, toList_eq, ← joined, pieces_flatten p.componentBytes_pos each]

/-- What is read from a blob is written back as the blob if it is finite and refused otherwise. -/
theorem encode_decoded {b : ByteArray} (size : b.size = p.vectorBytes) :
    ∃ xs, p.decode (.bytes b) = .ok xs ∧ xs.length = p.dimension
      ∧ ((∀ x ∈ xs, x.isFinite = true) → p.encode (.list (xs.map .double)) = .ok b)
      ∧ ((∃ x ∈ xs, x.isFinite = false) →
        p.encode (.list (xs.map .double)) = .error (.input .vectorNotFinite)) := by
  have length : b.data.toList.length = p.dimension * p.componentBytes := by
    rw [Array.length_toList]
    exact size
  obtain ⟨ws, count, each, joined⟩ := exists_pieces length
  have back := fun w hw => p.component.bytesOf_ofBytes (each w hw)
  refine ⟨ws.map p.component.ofBytes, decode_bytes size each joined, by simpa using count, ?_, ?_⟩
  · intro finite
    have held : ∀ x ∈ ws.map p.component.ofBytes, p.component.holds x = true := by
      intro x hx
      obtain ⟨w, hw, rfl⟩ := List.mem_map.1 hx
      rw [(back w hw).1]
      exact finite _ hx
    have each_same : ∀ w ∈ ws, p.component.bytesOf (p.component.ofBytes w) = w := by
      intro w hw
      exact (back w hw).2 (finite _ (List.mem_map_of_mem hw))
    have same : (ws.map p.component.ofBytes).flatMap p.component.bytesOf = b.data.toList := by
      rw [← joined, List.flatMap_map, List.flatMap_def, List.map_congr_left each_same, List.map_id']
    rw [encode_of_holds (by simpa using count) held, same]
  · rintro ⟨x, hx, infinite⟩
    obtain ⟨w, hw, rfl⟩ := List.mem_map.1 hx
    exact encode_of_unheld ⟨_, hx, (back w hw).1.trans infinite⟩

/-- A list is written if its rounded numbers are finite, which are then read, and refused
otherwise. -/
theorem decode_encoded (count : xs.length = p.dimension) :
    ((∀ y ∈ xs.map p.component.rounding, y.isFinite = true) →
        ∃ b, p.encode (.list (xs.map .double)) = .ok b
          ∧ p.decode (.bytes b) = .ok (xs.map p.component.rounding))
      ∧ ((∃ y ∈ xs.map p.component.rounding, y.isFinite = false) →
        p.encode (.list (xs.map .double)) = .error (.input .vectorNotFinite)) := by
  constructor
  · intro finite
    have held : ∀ x ∈ xs, p.component.holds x = true := by
      intro x hx
      rw [p.component.holds_eq]
      exact finite _ (List.mem_map_of_mem hx)
    have written := encode_of_holds count held
    have each : ∀ w ∈ xs.map p.component.bytesOf, w.length = p.componentBytes := by
      intro w hw
      obtain ⟨x, _, rfl⟩ := List.mem_map.1 hw
      exact p.length_component x
    have read := decode_bytes (Condition.encode_size written) each (by rw [List.flatMap_def])
    refine ⟨_, written, read.trans ?_⟩
    rw [List.map_map]
    exact congrArg Except.ok (List.map_congr_left fun x _ => p.component.ofBytes_bytesOf x)
  · rintro ⟨y, hy, infinite⟩
    obtain ⟨x, hx, rfl⟩ := List.mem_map.1 hy
    exact encode_of_unheld ⟨x, hx, (p.component.holds_eq x).trans infinite⟩

/-- A blob of the right length is read as one number for each component. These are written back as
the same bytes if all are finite and are refused otherwise. A list of the right length is taken if
each number is finite once it is rounded to a component, and is then read as the rounded numbers.
Whatever is written has the length of the vectors. -/
theorem encode_decode_rounded (p : VectorParams) :
    (∀ b : ByteArray, b.size = p.vectorBytes →
      ∃ xs, p.decode (.bytes b) = .ok xs ∧ xs.length = p.dimension
        ∧ ((∀ x ∈ xs, x.isFinite = true) → p.encode (.list (xs.map .double)) = .ok b)
        ∧ ((∃ x ∈ xs, x.isFinite = false) →
          p.encode (.list (xs.map .double)) = .error (.input .vectorNotFinite)))
    ∧ (∀ xs : List Double, xs.length = p.dimension →
      ∃ ys, List.Forall₂ (fun x y => p.component.Rounds x.datum y.datum) xs ys
        ∧ ((∀ y ∈ ys, y.isFinite = true) → ∃ b, p.encode (.list (xs.map .double)) = .ok b
          ∧ p.decode (.bytes b) = .ok ys)
        ∧ ((∃ y ∈ ys, y.isFinite = false) →
          p.encode (.list (xs.map .double)) = .error (.input .vectorNotFinite)))
    ∧ ∀ v b, p.encode v = .ok b → b.size = p.dimension * p.componentBytes := by
  refine ⟨fun b size => encode_decoded size, ?_, fun v b written => Condition.encode_size written⟩
  intro xs count
  have rounded : List.Forall₂ (fun x y : Double => p.component.Rounds x.datum y.datum) xs
      (xs.map p.component.rounding) := by
    rw [List.forall₂_map_right_iff]
    exact List.forall₂_same.2 fun x _ => p.component.rounds_rounding x
  exact ⟨_, rounded, decode_encoded count⟩

theorem one_bounded : 1 ≤ 1 ∧ 1 ≤ largestDimension := by decide

/-- Vectors of one single component. -/
def shade : VectorParams where
  algorithm := .flat
  dimension := 1
  metric := .l2
  component := .float32
  initialCap := .null
  blockSize := .null
  maxEdges := .null
  buildCandidates := .null
  queryCandidates := .null
  bounded := one_bounded

/-- The blob of one and a half comes back, and half a last place above one is a tie that goes down
to one. -/
theorem encode_decode_rounded_shade :
    (∃ xs, shade.decode (.bytes ⟨#[0, 0, 192, 63]⟩) = .ok xs
        ∧ shade.encode (.list (xs.map .double)) = .ok ⟨#[0, 0, 192, 63]⟩)
      ∧ ∃ ys b, List.Forall₂ (fun x y : Double => shade.component.Rounds x.datum y.datum)
          [⟨0x3ff0000010000000⟩] ys ∧ shade.encode (.list [.double ⟨0x3ff0000010000000⟩]) = .ok b
        ∧ b = ⟨#[0, 0, 128, 63]⟩ ∧ shade.decode (.bytes b) = .ok ys := by
  obtain ⟨blobs, lists, _⟩ := encode_decode_rounded shade
  constructor
  · obtain ⟨xs, read, _, written, _⟩ := blobs ⟨#[0, 0, 192, 63]⟩ rfl
    have known : shade.decode (.bytes ⟨#[0, 0, 192, 63]⟩) = .ok [⟨0x3ff8000000000000⟩] := by
      have each : ∀ w ∈ [[(0 : UInt8), 0, 192, 63]], w.length = shade.componentBytes := by decide
      exact (decode_bytes rfl each rfl).trans rfl
    have same : xs = [⟨0x3ff8000000000000⟩] := Except.ok.inj (read.symm.trans known)
    exact ⟨xs, read, written (by rw [same]; decide)⟩
  · obtain ⟨ys, rounded, taken, refused⟩ := lists [⟨0x3ff0000010000000⟩] rfl
    have held : ∀ x ∈ [(⟨0x3ff0000010000000⟩ : Double)], shade.component.holds x = true := by decide
    have bytes : shade.encode (.list [.double ⟨0x3ff0000010000000⟩]) = .ok ⟨#[0, 0, 128, 63]⟩ :=
      encode_of_holds rfl held
    have finite : ∀ y ∈ ys, y.isFinite = true := by
      by_contra some_infinite
      have refusal := refused (by simpa using some_infinite)
      rw [List.map_singleton, bytes] at refusal
      cases refusal
    obtain ⟨b, written, read⟩ := taken finite
    rw [List.map_singleton] at written
    exact ⟨ys, b, rounded, written, Except.ok.inj (written.symm.trans bytes), read⟩

end VectorParams

end TypedQuery
