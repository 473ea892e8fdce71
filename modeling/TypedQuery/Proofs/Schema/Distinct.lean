import Mathlib.Data.List.Nodup
import TypedQuery.Proofs.Condition.Built
import TypedQuery.Proofs.Schema.Lookup

/-! # Schemas with distinct names

Fields go into a schema one after another, and each is refused if its name or its store name was
taken by a field before it. The two names are apart: a store name may be the name of another field.
So the fields with pairwise different names, and pairwise different store names, are just those that
make a schema, and in it each is found by either name. -/

namespace TypedQuery
set_option autoImplicit false

/-! ## The first repeated name -/

/-- The fault of fields of which one repeats a name for the first time. -/
inductive FirstRepeat (fields : List Field) : SchemaFault → Prop
  | name {earlier later : List Field} {f : Field} : fields = earlier ++ f :: later →
    (earlier.map Field.name).Nodup → (earlier.map Field.storeName).Nodup →
    f.name ∈ earlier.map Field.name → FirstRepeat fields (.duplicateName f.name.text)
  | storeName {earlier later : List Field} {f : Field} : fields = earlier ++ f :: later →
    (earlier.map Field.name).Nodup → (earlier.map Field.storeName).Nodup →
    f.name ∉ earlier.map Field.name → f.storeName ∈ earlier.map Field.storeName →
    FirstRepeat fields (.duplicateStoreName f.storeName.text)

/-- Pairwise different names, and pairwise different store names. -/
structure Distinct (fields : List Field) : Prop where
  names : (fields.map fun f => f.name.text).Nodup
  storeNames : (fields.map fun f => f.storeName.text).Nodup

theorem FirstRepeat.not_distinct {fields : List Field} {fault : SchemaFault}
    (h : FirstRepeat fields fault) : ¬ Distinct fields := by
  rintro ⟨names, storeNames⟩
  rw [Schema.nodup_texts_iff] at names storeNames
  cases h with
  | @name earlier later f split _ _ taken =>
    rw [split, List.map_append, List.nodup_append] at names
    exact names.2.2 _ taken _ (List.mem_cons_self ..) rfl
  | @storeName earlier later f split _ _ _ taken =>
    rw [split, List.map_append, List.nodup_append] at storeNames
    exact storeNames.2.2 _ taken _ (List.mem_cons_self ..) rfl

namespace Schema

theorem nodup_reverse_map {before : List Field} {key : Field → FieldName}
    (nodup : (before.map key).Nodup) : (before.reverse.map key).Nodup := by
  rw [List.map_reverse]
  exact List.nodup_reverse.2 nodup

/-- The loop over fields, after those before: it ends without a fault, or at the first field that
repeats a name. -/
theorem firstFault?_fields (before fields : List Field)
    (names : (before.map Field.name).Nodup) (storeNames : (before.map Field.storeName).Nodup) :
    (firstFault? before (fields.map .inr) = none ∧ Distinct (before.reverse ++ fields))
      ∨ ∃ fault, firstFault? before (fields.map .inr) = some fault
        ∧ FirstRepeat (before.reverse ++ fields) fault := by
  induction fields generalizing before with
  | nil =>
    refine .inl ⟨rfl, ?_, ?_⟩
    · rw [nodup_texts_iff, List.append_nil]
      exact nodup_reverse_map names
    · rw [nodup_texts_iff, List.append_nil]
      exact nodup_reverse_map storeNames
  | cons f rest ih =>
    rw [List.map_cons, firstFault?]
    by_cases name : f.name ∈ before.map Field.name
    · rw [if_pos name]
      refine .inr ⟨_, rfl, .name rfl (nodup_reverse_map names) (nodup_reverse_map storeNames) ?_⟩
      rw [List.map_reverse]
      exact List.mem_reverse.2 name
    rw [if_neg name]
    by_cases storeName : f.storeName ∈ before.map Field.storeName
    · rw [if_pos storeName]
      refine .inr ⟨_, rfl, .storeName rfl (nodup_reverse_map names)
        (nodup_reverse_map storeNames) ?_ ?_⟩
      · rw [List.map_reverse]
        exact mt List.mem_reverse.1 name
      · rw [List.map_reverse]
        exact List.mem_reverse.2 storeName
    rw [if_neg storeName]
    have passed := ih (f :: before) (List.nodup_cons.2 ⟨name, names⟩)
      (List.nodup_cons.2 ⟨storeName, storeNames⟩)
    rwa [List.reverse_cons, List.append_assoc] at passed

theorem fieldsOf_fields (fields : List Field) : fieldsOf (fields.map .inr) = fields := by
  induction fields with
  | nil => rfl
  | cons f rest ih => exact congrArg (f :: ·) ih

/-! ## Lookups -/

/-- Either name of a field of the schema finds the field, and nothing else is found. -/
structure Holds (s : Schema) (fields : List Field) : Prop where
  fields_eq : s.fields = fields
  names_eq : s.names = fields.map fun f => f.name.text
  storeNames_eq : s.storeNames = fields.map fun f => f.storeName.text
  get : ∀ f ∈ fields, s.get (.text f.name.text) = .ok f
  byStoreName : ∀ f ∈ fields, s.byStoreName (.text f.storeName.text) = .ok (some f)
  contains : ∀ t, s.contains (.text t) = .ok (decide (t ∈ s.names))
  get_refused : ∀ t, (∃ fault, s.get (.text t) = .error (.schema fault)) ↔ t ∉ s.names
  byStoreName_none : ∀ t, s.byStoreName (.text t) = .ok none ↔ t ∉ s.storeNames

variable {s : Schema} {f : Field}

theorem asKey_text (t : String) : (Value.text t).asKey = .ok (.text t) := rfl

theorem get_of_mem (h : f ∈ s.fields) : s.get (.text f.name.text) = .ok f := by
  rw [get, asKey_text, ok_bind]
  dsimp only
  rw [byName?_of_mem h]
  rfl

theorem byStoreName_text (t : String) : s.byStoreName (.text t) = .ok (s.byStoreName? t) := rfl

theorem contains_text (t : String) : s.contains (.text t) = .ok (decide (t ∈ s.names)) := by
  have found : (s.byName? t).isSome = decide (t ∈ s.names) := by
    rw [Bool.eq_iff_iff, decide_eq_true_iff, Option.isSome_iff_ne_none, ne_eq, byName?_eq_none,
      not_not]
  rw [← found]
  rfl

theorem get_refused_iff (t : String) :
    (∃ fault, s.get (.text t) = .error (.schema fault)) ↔ t ∉ s.names := by
  rw [← byName?_eq_none, get, asKey_text, ok_bind]
  dsimp only
  cases s.byName? t with
  | none => exact ⟨fun _ => rfl, fun _ => ⟨_, rfl⟩⟩
  | some f =>
    constructor
    · rintro ⟨fault, e⟩
      cases e
    · intro e
      cases e

theorem holds_fields (s : Schema) : s.Holds s.fields where
  fields_eq := rfl
  names_eq := rfl
  storeNames_eq := rfl
  get _ := get_of_mem
  byStoreName f h := by rw [byStoreName_text, byStoreName?_of_mem h]
  contains := contains_text
  get_refused := get_refused_iff
  byStoreName_none t := by rw [byStoreName_text, Except.ok.injEq, byStoreName?_eq_none]

/-! ## Construction -/

/-- A prefix that is not empty, or none, and a form of storage that is known. -/
structure Placement.Valid (place : Placement) : Prop where
  keyPrefix : place.keyPrefix = .null ∨ ∃ t, t ≠ "" ∧ place.keyPrefix = .text t
  storage : ∃ t, place.storage = .text t ∧ ∃ form : Storage, upperCase t = form.label

theorem Placement.Valid.storageOf {place : Placement} (valid : place.Valid) :
    ∃ form, Schema.storageOf place.storage = .ok form := by
  obtain ⟨t, stored, form, label⟩ := valid.storage
  rw [stored]
  cases form with
  | hash => exact ⟨.hash, by simp [Schema.storageOf, label, Storage.label]⟩
  | json => exact ⟨.json, by simp [Schema.storageOf, label, Storage.label]⟩

theorem Placement.Valid.checkKeyPrefix {place : Placement} (valid : place.Valid) (entity : String) :
    ∃ t, TypedQuery.checkKeyPrefix (match place.keyPrefix with
      | .null => .text (entity ++ ":")
      | v => v) = .ok t := by
  rcases valid.keyPrefix with null | ⟨t, ne, given⟩
  · have ne : entity ++ ":" ≠ "" := by
      intro e
      have lengths := congrArg String.length e
      simp at lengths
    rw [null]
    exact ⟨_, if_neg ne⟩
  · rw [given]
    exact ⟨t, if_neg ne⟩

/-- With an entity name and a valid place, a schema is made of all the fields, or it fails at the first
repeated name. -/
theorem ofCandidates_cases {entity : String} {place : Placement} (fields : List Field)
    (named : entity ≠ "") (valid : place.Valid) :
    (Distinct fields ∧ ∃ s, ofCandidates (.text entity) (fields.map .inr) place = .ok s
        ∧ s.fields = fields)
      ∨ ∃ fault, ofCandidates (.text entity) (fields.map .inr) place = .error (.schema fault)
        ∧ FirstRepeat fields fault := by
  have loop := firstFault?_fields [] fields List.nodup_nil List.nodup_nil
  rw [List.reverse_nil, List.nil_append] at loop
  obtain ⟨form, stored⟩ := valid.storageOf
  obtain ⟨keyPrefix, checked⟩ := valid.checkKeyPrefix entity
  have truthy : (!(ShownName.text entity).value.truthy) = false := by
    simp [ShownName.text, Value.truthy, named]
  unfold ofCandidates
  rw [truthy]
  simp only [Bool.false_eq_true, if_false, pure_eq_ok]
  split
  · rename_i refused
    exact absurd (refused.symm.trans checked) nofun
  rw [stored, ok_bind]
  split
  · rename_i fault repeated
    rcases loop with ⟨passed, _⟩ | ⟨first, found, repeats⟩
    · exact absurd (repeated.symm.trans passed) nofun
    · cases repeated.symm.trans found
      exact .inr ⟨_, rfl, repeats⟩
  · rename_i passed
    rcases loop with ⟨_, distinct⟩ | ⟨first, found, _⟩
    · exact .inl ⟨distinct, _, rfl, fieldsOf_fields fields⟩
    · exact absurd (passed.symm.trans found) nofun

/-- Under an entity name, and with a valid prefix and storage, fields make a schema just when their
names, and their store names, are pairwise different; otherwise the schema fails at the first name that
is repeated. A schema that is made holds the fields as they were declared, each of them found by either
of its names, and nothing else. -/
theorem ofCandidates_distinct {entity : String} {place : Placement} (fields : List Field)
    (named : entity ≠ "") (valid : place.Valid) :
    ((∃ s, ofCandidates (.text entity) (fields.map .inr) place = .ok s) ↔ Distinct fields)
      ∧ (¬ Distinct fields → ∃ fault,
        ofCandidates (.text entity) (fields.map .inr) place = .error (.schema fault)
          ∧ FirstRepeat fields fault)
      ∧ ∀ s, ofCandidates (.text entity) (fields.map .inr) place = .ok s → s.Holds fields := by
  rcases ofCandidates_cases fields named valid with
    ⟨distinct, s, made, whole⟩ | ⟨fault, failed, repeats⟩
  · refine ⟨⟨fun _ => distinct, fun _ => ⟨s, made⟩⟩, fun no => absurd distinct no, ?_⟩
    intro s' made'
    cases made.symm.trans made'
    rw [← whole]
    exact holds_fields s
  · refine ⟨⟨?_, fun distinct => absurd distinct repeats.not_distinct⟩,
      fun _ => ⟨fault, failed, repeats⟩, ?_⟩
    · rintro ⟨s, made⟩
      exact absurd (failed.symm.trans made) nofun
    · intro s made
      exact absurd (failed.symm.trans made) nofun

/-- Fields that are each stored under the name of the other. -/
def crossed : List Field :=
  [{ Products.kind with storeName := Products.image.name },
    { Products.image with storeName := Products.kind.name }]

theorem ofCandidates_crossed :
    ∃ s, ofCandidates (.text "Product") (crossed.map .inr) {} = .ok s ∧ s.Holds crossed
      ∧ s.storeNames = ["image", "kind"] := by
  have valid : ({} : Placement).Valid := ⟨.inl rfl, "HASH", rfl, .hash, by decide +kernel⟩
  have distinct : Distinct crossed := ⟨by decide, by decide⟩
  obtain ⟨made_iff, _, holds⟩ :=
    ofCandidates_distinct crossed (by decide : "Product" ≠ "") valid
  obtain ⟨s, made⟩ := made_iff.2 distinct
  exact ⟨s, made, holds s made, (holds s made).storeNames_eq⟩

/-- Without an entity name, fields with distinct names make no schema. -/
theorem ofCandidates_unnamed :
    ({ keyPrefix := .text "Product:" } : Placement).Valid ∧ Distinct [Products.kind]
      ∧ ofCandidates (.text "") [.inr Products.kind] { keyPrefix := .text "Product:" }
        = .error (.schema .noEntityName) :=
  ⟨⟨.inr ⟨_, by decide, rfl⟩, "HASH", rfl, .hash, by decide +kernel⟩,
    ⟨by decide, by decide⟩, rfl⟩

end Schema

end TypedQuery
