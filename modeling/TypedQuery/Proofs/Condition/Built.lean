import TypedQuery.Condition.Builder
import TypedQuery.Proofs.Outcome
import TypedQuery.Proofs.Condition.Tree

/-! # What builders make

`WellMade` lists the predicates that can come out of a builder for a field: which operands they
hold and which type of field they are on. `Built.wellMade` reads this off every builder. -/

namespace TypedQuery
set_option autoImplicit false

/-- The predicates that builders make of a field. -/
inductive Predicate.WellMade (f : Field) : Predicate → Prop
  | truth {b : Bool} : f.type = .boolean → WellMade f (.equals (.bool b))
  | number {n : Numeral} : f.type = .number ∨ f.type = .date → WellMade f (.equals (.ofNumeral n))
  | tag {t : String} : f.type = .tag → WellMade f (.equals (.text t))
  | phrase {t : String} : f.type = .text → isBlankText t = false →
    WellMade f (.equals (.text t))
  | range {lower upper : Option Numeral} {lowerInclusive upperInclusive : Value} :
    f.type = .number ∨ f.type = .date →
    WellMade f (.range (Condition.boundValue lower) (Condition.boundValue upper)
      lowerInclusive upperInclusive)
  | contains {tags : List String} : f.type = .tag → tags ≠ [] → "" ∉ tags →
    WellMade f (.contains (tags.map .text))
  | terms {t : String} {exact : Value} : f.type = .text → isBlankText t = false →
    WellMade f (.terms (.text t) exact)
  | within {x y r : Double} {unit : String} : f.type = .geo → unit ∈ Condition.distanceUnits →
    WellMade f (.within (.double x) (.double y) (.double r) (.text unit))
  | nearest {params : VectorParams} {k : Int} {b : ByteArray} {scoreAlias : Value} :
    f.vectorParams? = some params → 1 ≤ k → k ≤ mostNeighbours → b.size = params.vectorBytes →
    WellMade f (.nearest (.int k) (.bytes b) scoreAlias)

namespace Condition

/-- The leaves that builders make of the fields of a schema. -/
inductive Built (s : Schema) : Condition → Prop
  | equals {f : Field} {v : Value} {c : Condition} : f ∈ s.fields →
    equals (.field f .schema) v = .ok c → Built s c
  | range {f : Field} {minimum maximum minInclusive maxInclusive : Value} {c : Condition} :
    f ∈ s.fields →
    range (.field f .schema) minimum maximum minInclusive maxInclusive = .ok c → Built s c
  | contains {f : Field} {v : Value} {c : Condition} : f ∈ s.fields →
    contains (.field f .schema) v = .ok c → Built s c
  | containsAny {f : Field} {v : Value} {c : Condition} : f ∈ s.fields →
    containsAny (.field f .schema) v = .ok c → Built s c
  | terms {f : Field} {pattern exact : Value} {c : Condition} : f ∈ s.fields →
    terms (.field f .schema) pattern exact = .ok c → Built s c
  | within {f : Field} {longitude latitude radius unit : Value} {c : Condition} : f ∈ s.fields →
    within (.field f .schema) longitude latitude radius unit = .ok c → Built s c
  | nearest {f : Field} {k vector scoreAlias : Value} {c : Condition} : f ∈ s.fields →
    nearest (.field f .schema) k vector scoreAlias = .ok c → Built s c

/-! ## Builder by builder -/

variable {f g : Field} {origin : Origin} {c : Condition}

theorem requireField_eq_ok {predicate : String} {allowed : List FieldType}
    (h : requireField (.field f origin) predicate allowed = .ok g) :
    g = f ∧ f.type ∈ allowed := by
  simp only [requireField] at h
  split at h
  · rename_i fits
    cases h
    exact ⟨rfl, by simpa using fits⟩
  · cases h

theorem equalValue_wellMade {v w : Value}
    (allowed : f.type ∈ [FieldType.text, .tag, .number, .boolean, .date])
    (h : equalValue f v = .ok w) : Predicate.WellMade f (.equals w) := by
  unfold equalValue at h
  split at h
  case h_1 type_eq =>
    split at h
    · cases h
      exact .truth type_eq
    · cases h
  case h_2 type_eq =>
    obtain ⟨n, _, rfl⟩ := map_eq_ok.1 h
    exact .number (.inl type_eq)
  case h_3 type_eq =>
    obtain ⟨n, _, rfl⟩ := map_eq_ok.1 h
    exact .number (.inr type_eq)
  case h_4 type_eq =>
    split at h
    · split at h
      · cases h
      · cases h
        exact .tag type_eq
    · split at h
      · obtain ⟨shown, _, rfl⟩ := map_eq_ok.1 h
        exact .tag type_eq
      · cases h
  case h_5 _ boolean number date tag =>
    have type_eq : f.type = .text := by
      simp only [List.mem_cons, List.not_mem_nil, or_false] at allowed
      rcases allowed with e | e | e | e | e
      · exact e
      · exact absurd e tag
      · exact absurd e number
      · exact absurd e boolean
      · exact absurd e date
    split at h
    · split at h
      · cases h
      · rename_i blank
        cases h
        exact .phrase type_eq (by simpa using blank)
    · cases h

theorem equals_eq_ok {v : Value} (h : equals (.field f origin) v = .ok c) :
    f.type ∈ [FieldType.text, .tag, .number, .boolean, .date]
      ∧ ∃ w, equalValue f v = .ok w ∧ c = .leaf (.field f origin) (.equals w) := by
  obtain ⟨g, hg, h⟩ := bind_eq_ok.1 h
  obtain ⟨rfl, allowed⟩ := requireField_eq_ok hg
  obtain ⟨w, hw, h⟩ := bind_eq_ok.1 h
  cases h
  exact ⟨allowed, w, hw, rfl⟩

theorem equals_wellMade {v : Value} (h : equals (.field f origin) v = .ok c) :
    ∃ p, c = .leaf (.field f origin) p ∧ p.WellMade f := by
  obtain ⟨allowed, w, hw, made⟩ := equals_eq_ok h
  exact ⟨_, made, equalValue_wellMade allowed hw⟩

theorem range_eq_ok {minimum maximum minInclusive maxInclusive : Value}
    (h : range (.field f origin) minimum maximum minInclusive maxInclusive = .ok c) :
    (f.type = .number ∨ f.type = .date) ∧ ∃ lower upper, boundOf f minimum = .ok lower
      ∧ boundOf f maximum = .ok upper ∧ c = .leaf (.field f origin)
        (.range (boundValue lower) (boundValue upper) minInclusive maxInclusive) := by
  obtain ⟨g, hg, h⟩ := bind_eq_ok.1 h
  obtain ⟨rfl, allowed⟩ := requireField_eq_ok hg
  obtain ⟨lower, hl, h⟩ := bind_eq_ok.1 h
  obtain ⟨upper, hu, h⟩ := bind_eq_ok.1 h
  have made : c = .leaf (.field g origin)
      (.range (boundValue lower) (boundValue upper) minInclusive maxInclusive) := by
    split at h
    · split at h
      · cases h
      · cases h
        rfl
    · cases h
      rfl
  exact ⟨by simpa using allowed, lower, upper, mapError_eq_ok.1 hl, mapError_eq_ok.1 hu, made⟩

theorem range_wellMade {minimum maximum minInclusive maxInclusive : Value}
    (h : range (.field f origin) minimum maximum minInclusive maxInclusive = .ok c) :
    ∃ p, c = .leaf (.field f origin) p ∧ p.WellMade f := by
  obtain ⟨type_eq, lower, upper, _, _, made⟩ := range_eq_ok h
  exact ⟨_, made, .range type_eq⟩

theorem containsAny_eq_ok {values : Value} (h : containsAny (.field f origin) values = .ok c) :
    f.type = .tag ∧ ∃ tags : List String, tags ≠ [] ∧ "" ∉ tags
      ∧ c = .leaf (.field f origin) (.contains (tags.map .text)) := by
  obtain ⟨g, hg, h⟩ := bind_eq_ok.1 h
  obtain ⟨rfl, allowed⟩ := requireField_eq_ok hg
  refine ⟨by simpa using allowed, ?_⟩
  have checked : ∃ tags : List String, (do
      if tags.isEmpty then throw (.input (.noTags g.name.text))
      if tags.contains "" then throw (.input (.emptyTagAmong g.name.text))
      return leaf (.field g origin) (.contains (tags.map .text))) = (.ok c : Result Condition) := by
    split at h
    all_goals
      obtain ⟨members, _, h⟩ := bind_eq_ok.1 h
      obtain ⟨tags, _, h⟩ := bind_eq_ok.1 h
      exact ⟨tags, h⟩
  obtain ⟨tags, h⟩ := checked
  dsimp only at h
  split at h
  · cases h
  · rename_i ne
    split at h
    · cases h
    · rename_i fresh
      cases h
      exact ⟨tags, by simpa using ne, by simpa using fresh, rfl⟩

theorem containsAny_wellMade {values : Value} (h : containsAny (.field f origin) values = .ok c) :
    ∃ p, c = .leaf (.field f origin) p ∧ p.WellMade f := by
  obtain ⟨type_eq, tags, ne, fresh, made⟩ := containsAny_eq_ok h
  exact ⟨_, made, .contains type_eq ne fresh⟩

theorem terms_eq_ok {pattern exact : Value} (h : terms (.field f origin) pattern exact = .ok c) :
    f.type = .text ∧ ∃ t, isBlankText t = false
      ∧ c = .leaf (.field f origin) (.terms (.text t) exact) := by
  obtain ⟨g, hg, h⟩ := bind_eq_ok.1 h
  obtain ⟨rfl, allowed⟩ := requireField_eq_ok hg
  split at h
  · split at h
    · cases h
    · rename_i blank
      cases h
      exact ⟨by simpa using allowed, _, by simpa using blank, rfl⟩
  · cases h

theorem terms_wellMade {pattern exact : Value} (h : terms (.field f origin) pattern exact = .ok c) :
    ∃ p, c = .leaf (.field f origin) p ∧ p.WellMade f := by
  obtain ⟨type_eq, t, blank, made⟩ := terms_eq_ok h
  exact ⟨_, made, .terms type_eq blank⟩

theorem unitOf_eq_ok {v : Value} {unit : String} (h : unitOf v = .ok unit) :
    unit ∈ distanceUnits := by
  unfold unitOf at h
  split at h
  · dsimp only at h
    split at h
    · rename_i known
      cases h
      simpa using known
    · cases h
  · cases h
  · cases h

theorem within_eq_ok {longitude latitude radius unit : Value}
    (h : within (.field f origin) longitude latitude radius unit = .ok c) :
    f.type = .geo ∧ ∃ x y r label, label ∈ distanceUnits
      ∧ (longitude.within (.int (-180)) (.int 180) = .ok true ∧ longitude.toDouble = .ok x)
      ∧ (latitude.within (latitudeBound true) (latitudeBound false) = .ok true
        ∧ latitude.toDouble = .ok y)
      ∧ (radius.lessThan (.int 0) = .ok false ∧ radius.toDouble = .ok r)
      ∧ c = .leaf (.field f origin)
        (.within (.double x) (.double y) (.double r) (.text label)) := by
  obtain ⟨_, hd, h⟩ := bind_eq_ok.1 h
  obtain ⟨g, hg, _⟩ := map_eq_ok.1 hd
  obtain ⟨rfl, allowed⟩ := requireField_eq_ok hg
  obtain ⟨label, hu, h⟩ := bind_eq_ok.1 h
  obtain ⟨inWest, west, h⟩ := bind_eq_ok.1 h
  dsimp only at h
  cases inWest with
  | false => cases h
  | true =>
    obtain ⟨inNorth, north, h⟩ := bind_eq_ok.1 h
    cases inNorth with
    | false => cases h
    | true =>
      obtain ⟨negative, around, h⟩ := bind_eq_ok.1 h
      cases negative with
      | true => cases h
      | false =>
        obtain ⟨x, hx, h⟩ := bind_eq_ok.1 h
        obtain ⟨y, hy, h⟩ := bind_eq_ok.1 h
        obtain ⟨r, hr, h⟩ := bind_eq_ok.1 h
        cases h
        exact ⟨by simpa using allowed, x, y, r, label, unitOf_eq_ok hu, ⟨west, hx⟩, ⟨north, hy⟩,
          ⟨around, hr⟩, rfl⟩

theorem within_wellMade {longitude latitude radius unit : Value}
    (h : within (.field f origin) longitude latitude radius unit = .ok c) :
    ∃ p, c = .leaf (.field f origin) p ∧ p.WellMade f := by
  obtain ⟨type_eq, x, y, r, label, known, _, _, _, made⟩ := within_eq_ok h
  exact ⟨_, made, .within type_eq known⟩

theorem requireVector_eq_ok {params : VectorParams}
    (h : requireVector (.field f origin) = .ok params) : f.vectorParams? = some params := by
  simp only [requireVector] at h
  split at h
  · rename_i found
    cases h
    exact found
  · cases h

theorem checkNeighbours_eq_ok {v : Value} {n : Int}
    (h : checkNeighbours v (.int mostNeighbours) = .ok n) :
    v = .int n ∧ 1 ≤ n ∧ n ≤ mostNeighbours := by
  unfold checkNeighbours at h
  split at h
  · split at h
    · cases h
    · rename_i low
      obtain ⟨above, ha, h⟩ := bind_eq_ok.1 h
      cases above with
      | true => cases h
      | false =>
        cases h
        have high : ¬ (mostNeighbours : Int) < n := by
          simpa [Value.lessThan_int] using ha
        exact ⟨rfl, by omega, by omega⟩
  · cases h

theorem checkLength_eq_ok {params : VectorParams} {length : Nat}
    (h : params.checkLength length = .ok ()) : length = params.vectorBytes := by
  unfold VectorParams.checkLength at h
  split at h
  · assumption
  · cases h

theorem encode_size {params : VectorParams} {v : Value} {b : ByteArray}
    (h : params.encode v = .ok b) : b.size = params.vectorBytes := by
  unfold VectorParams.encode at h
  split at h
  · obtain ⟨_, hl, h⟩ := bind_eq_ok.1 h
    cases h
    exact checkLength_eq_ok hl
  · split at h
    · cases h
    · dsimp only at h
      split at h
      · cases h
      · obtain ⟨components, _, h⟩ := bind_eq_ok.1 h
        split at h
        · cases h
        · split at h
          · cases h
          · obtain ⟨_, hl, h⟩ := bind_eq_ok.1 h
            cases h
            rw [← checkLength_eq_ok hl]
            rfl

theorem nearest_eq_ok {k vector scoreAlias : Value}
    (h : nearest (.field f origin) k vector scoreAlias = .ok c) :
    ∃ params, ∃ n : Int, ∃ b, f.vectorParams? = some params ∧ (1 ≤ n ∧ n ≤ mostNeighbours)
      ∧ b.size = params.vectorBytes
      ∧ c = .leaf (.field f origin) (.nearest (.int n) (.bytes b) scoreAlias) := by
  obtain ⟨params, hp, h⟩ := bind_eq_ok.1 h
  obtain ⟨_, hd, h⟩ := bind_eq_ok.1 h
  obtain ⟨n, hn, _⟩ := map_eq_ok.1 hd
  obtain ⟨rfl, bounds⟩ := checkNeighbours_eq_ok hn
  obtain ⟨encoded, he, h⟩ := bind_eq_ok.1 h
  cases h
  exact ⟨params, n, encoded, requireVector_eq_ok hp, bounds, encode_size he, rfl⟩

theorem nearest_wellMade {k vector scoreAlias : Value}
    (h : nearest (.field f origin) k vector scoreAlias = .ok c) :
    ∃ p, c = .leaf (.field f origin) p ∧ p.WellMade f := by
  obtain ⟨params, n, b, found, bounds, size, made⟩ := nearest_eq_ok h
  exact ⟨_, made, .nearest found bounds.1 bounds.2 size⟩

/-! ## All builders -/

/-- A built leaf is a well-made predicate on a field of the schema. -/
theorem Built.wellMade {s : Schema} (h : Built s c) :
    ∃ f p, f ∈ s.fields ∧ c = .leaf (.field f .schema) p ∧ p.WellMade f := by
  cases h with
  | equals declared built =>
    obtain ⟨p, made, well⟩ := equals_wellMade built
    exact ⟨_, p, declared, made, well⟩
  | range declared built =>
    obtain ⟨p, made, well⟩ := range_wellMade built
    exact ⟨_, p, declared, made, well⟩
  | contains declared built =>
    obtain ⟨p, made, well⟩ := containsAny_wellMade built
    exact ⟨_, p, declared, made, well⟩
  | containsAny declared built =>
    obtain ⟨p, made, well⟩ := containsAny_wellMade built
    exact ⟨_, p, declared, made, well⟩
  | terms declared built =>
    obtain ⟨p, made, well⟩ := terms_wellMade built
    exact ⟨_, p, declared, made, well⟩
  | within declared built =>
    obtain ⟨p, made, well⟩ := within_wellMade built
    exact ⟨_, p, declared, made, well⟩
  | nearest declared built =>
    obtain ⟨p, made, well⟩ := nearest_wellMade built
    exact ⟨_, p, declared, made, well⟩

end Condition

/-! ## A schema of products

Products have a kind and an image of one component, or a price; their leaves are built in the
theorems' cases. -/

namespace Products

def kind : Field where
  name := ⟨"kind", by decide⟩
  kind := .tag
  storeName := ⟨"kind", by decide⟩
  sortable := .bool false
  separator := .text "|"
  multi := .bool false

def image : Field where
  name := ⟨"image", by decide⟩
  kind := .vector {
    algorithm := .flat
    dimension := 1
    metric := .cosine
    component := .float32
    initialCap := .null
    blockSize := .null
    maxEdges := .null
    buildCandidates := .null
    queryCandidates := .null
    bounded := by decide }
  storeName := ⟨"image", by decide⟩
  sortable := .bool false
  separator := .text "|"
  multi := .bool false

def price : Field where
  name := ⟨"price", by decide⟩
  kind := .number
  storeName := ⟨"price", by decide⟩
  sortable := .bool false
  separator := .text "|"
  multi := .bool false

def schema : Schema where
  entityName := .text "Product"
  fields := [kind, image]
  keyPrefix := "Product:"
  indexName := .text "Product:index"
  storage := .hash
  names_nodup := by decide
  storeNames_nodup := by decide
  keyPrefix_ne := by decide

def priced : Schema where
  entityName := .text "Product"
  fields := [price]
  keyPrefix := "Product:"
  indexName := .text "Product:index"
  storage := .hash
  names_nodup := by decide
  storeNames_nodup := by decide
  keyPrefix_ne := schema.keyPrefix_ne

def isHat : Condition := .leaf (.field kind .schema) (.equals (.text "hat"))

def looksAlike (scoreAlias : Value) : Condition :=
  .leaf (.field image .schema) (.nearest (.int 3) (.bytes ⟨#[0, 0, 0, 0]⟩) scoreAlias)

def costs (n : Int) : Condition := .leaf (.field price .schema) (.equals (.int n))

theorem isHat_built : Condition.Built schema isHat :=
  .equals (f := kind) (v := .text "hat") (List.mem_cons_self ..) rfl

theorem looksAlike_built (scoreAlias : Value) : Condition.Built schema (looksAlike scoreAlias) := by
  have made : Condition.nearest (.field image .schema) (.int 3) (.bytes ⟨#[0, 0, 0, 0]⟩) scoreAlias
      = .ok (looksAlike scoreAlias) := rfl
  exact .nearest (List.mem_cons_of_mem _ (List.mem_cons_self ..)) made

theorem costs_built (n : Int) : Condition.Built priced (costs n) :=
  .equals (f := price) (v := .int n) (List.mem_singleton_self _) rfl

def nearHats : Condition := .all [isHat, looksAlike (.text "distance")]

theorem nearHats_made : nearHats.MadeOf (Condition.Built schema) := by
  rw [nearHats, Condition.madeOf_all]
  simp only [List.mem_cons, List.not_mem_nil, or_false, forall_eq_or_imp, forall_eq]
  exact ⟨Condition.madeOf_leaf.2 isHat_built, Condition.madeOf_leaf.2 (looksAlike_built _)⟩

end Products

end TypedQuery
