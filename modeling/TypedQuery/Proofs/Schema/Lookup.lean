import Mathlib.Data.List.Nodup
import TypedQuery.Proofs.Outcome
import TypedQuery.Schema

/-! # Looking fields up

The names of a schema are pairwise different, so that each declared field is what its own names
find. -/

namespace TypedQuery
set_option autoImplicit false

theorem Value.asKey_eq_ok {v key : Value} (h : v.asKey = .ok key) : v = key := by
  unfold asKey at h
  split at h
  · exact Except.ok.inj h
  · cases h

namespace Schema

theorem find?_of_nodup {fields : List Field} (key : Field → String)
    (nodup : (fields.map key).Nodup) {f : Field} (h : f ∈ fields) :
    (fields.find? fun g => key g == key f) = some f := by
  induction fields with
  | nil => simp at h
  | cons g rest ih =>
    rw [List.map_cons, List.nodup_cons] at nodup
    rcases List.mem_cons.1 h with rfl | h
    · simp
    · have differs : key g ≠ key f := fun e =>
        nodup.1 (e ▸ List.mem_map_of_mem h)
      rw [List.find?_cons_of_neg (by simpa using differs)]
      exact ih nodup.2 h

theorem find?_eq_none {fields : List Field} (key : Field → String) {name : String} :
    (fields.find? fun g => key g == name) = none ↔ name ∉ fields.map key := by
  rw [List.find?_eq_none, List.mem_map]
  constructor
  · rintro h ⟨g, hg, e⟩
    exact h g hg (by simpa using e)
  · intro h g hg e
    exact h ⟨g, hg, by simpa using e⟩

variable {s : Schema} {f : Field}

theorem text_injective : Function.Injective FieldName.text := by
  intro a b e
  cases a
  cases b
  cases e
  rfl

theorem nodup_texts_iff {fields : List Field} (key : Field → FieldName) :
    (fields.map fun f => (key f).text).Nodup ↔ (fields.map key).Nodup := by
  have texts : (fields.map fun f => (key f).text) = (fields.map key).map FieldName.text := by
    rw [List.map_map]
    rfl
  rw [texts]
  exact List.nodup_map_iff text_injective

theorem mem_names (h : f ∈ s.fields) : f.name.text ∈ s.names :=
  List.mem_map_of_mem (f := fun g => g.name.text) h

theorem byName?_of_mem (h : f ∈ s.fields) : s.byName? f.name.text = some f :=
  find?_of_nodup (fun g => g.name.text) ((nodup_texts_iff _).2 s.names_nodup) h

theorem byStoreName?_of_mem (h : f ∈ s.fields) : s.byStoreName? f.storeName.text = some f :=
  find?_of_nodup (fun g => g.storeName.text) ((nodup_texts_iff _).2 s.storeNames_nodup) h

theorem eq_of_name {g : Field} (hf : f ∈ s.fields) (hg : g ∈ s.fields)
    (same : f.name.text = g.name.text) : f = g := by
  have found := byName?_of_mem hf
  rw [same, byName?_of_mem hg] at found
  exact (Option.some.inj found).symm

theorem eq_of_storeName {g : Field} (hf : f ∈ s.fields) (hg : g ∈ s.fields)
    (same : f.storeName.text = g.storeName.text) : f = g := by
  have found := byStoreName?_of_mem hf
  rw [same, byStoreName?_of_mem hg] at found
  exact (Option.some.inj found).symm

theorem byName?_eq_some {name : String} (h : s.byName? name = some f) :
    f ∈ s.fields ∧ f.name.text = name := by
  refine ⟨List.mem_of_find?_eq_some h, ?_⟩
  simpa using List.find?_some h

theorem get_eq_ok {name : Value} (h : s.get name = .ok f) :
    f ∈ s.fields ∧ name = .text f.name.text := by
  obtain ⟨key, keyed, h⟩ := bind_eq_ok.1 h
  have same := Value.asKey_eq_ok keyed
  split at h
  · split at h
    · rename_i declared
      cases h
      obtain ⟨member, named⟩ := byName?_eq_some declared
      exact ⟨member, by rw [same, named]⟩
    · cases h
  · cases h

theorem byStoreName?_eq_some {name : String} (h : s.byStoreName? name = some f) :
    f ∈ s.fields ∧ f.storeName.text = name := by
  refine ⟨List.mem_of_find?_eq_some h, ?_⟩
  simpa using List.find?_some h

theorem byName?_eq_none {name : String} : s.byName? name = none ↔ name ∉ s.names :=
  find?_eq_none fun g => g.name.text

theorem byStoreName?_eq_none {name : String} : s.byStoreName? name = none ↔ name ∉ s.storeNames :=
  find?_eq_none fun g => g.storeName.text

end Schema

end TypedQuery
