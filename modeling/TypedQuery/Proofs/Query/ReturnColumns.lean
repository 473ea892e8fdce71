import TypedQuery.Proofs.Outcome
import TypedQuery.Proofs.Schema.Lookup
import TypedQuery.Query.Compile

/-! # The columns of a plan

With one distance column, the columns of a plan are that column and the store names of the fields
that the options ask for. A name that is the distance column's asks for no field. -/

namespace TypedQuery
set_option autoImplicit false

theorem Value.same_text {v : Value} {t : String} (h : v.same (.text t) = true) : v = .text t := by
  cases v with
  | text s =>
    rw [same, beq_iff_eq] at h
    rw [h]
  | _ => simp [same, numeral?] at h

theorem Value.text_same {v : Value} {t : String} (h : (text t).same v = true) : v = .text t := by
  cases v with
  | text s =>
    rw [same, beq_iff_eq] at h
    rw [h]
  | _ => simp [same] at h

/-- Do the options ask for a field? Unless they list names, they ask for every field. -/
def SearchOptions.Requests (o : SearchOptions) (distance : String) (f : Field) : Prop :=
  o.returnFields = .null ∨ ∃ names, o.returnFields.members = .ok names
    ∧ .text f.name.text ∈ names ∧ f.name.text ≠ distance

namespace Compiler

variable {c : Compiler} {o : SearchOptions} {distance : String} {columns : List Value}

theorem returnColumn_eq_ok {name column : Value}
    (h : c.returnColumn [.text distance] name = .ok column) :
    (name = .text distance ∧ column = .text distance)
      ∨ ∃ f ∈ c.schema.fields, name = .text f.name.text ∧ f.name.text ≠ distance
        ∧ column = .text f.storeName.text := by
  unfold returnColumn at h
  split at h
  · rename_i among
    cases h
    have same := Value.same_text (by simpa [Value.isAmong] using among)
    exact .inl ⟨same, same⟩
  · rename_i other
    obtain ⟨f, found, h⟩ := bind_eq_ok.1 h
    cases h
    obtain ⟨member, rfl⟩ := Schema.get_eq_ok (mapError_eq_ok.1 found)
    refine .inr ⟨f, member, rfl, ?_, rfl⟩
    rintro rfl
    exact other (by simp [Value.isAmong, Value.same])

theorem returnColumns_listed (listed : o.returnFields ≠ .null)
    (h : c.returnColumns o [.text distance] = .ok columns) (ne : columns ≠ []) :
    ∃ names given, o.returnFields.members = .ok names
      ∧ List.Forall₂ (fun name column => c.returnColumn [.text distance] name = .ok column) names given
      ∧ columns = if (Value.text distance).isAmong given then given else .text distance :: given := by
  unfold returnColumns at h
  split at h
  · contradiction
  · cases h
  · obtain ⟨names, hn, h⟩ := bind_eq_ok.1 h
    obtain ⟨given, hg, h⟩ := bind_eq_ok.1 h
    refine ⟨names, given, hn, mapM_eq_ok.1 hg, ?_⟩
    split at h
    · cases h
      exact absurd rfl ne
    · cases h
      rfl

/-- The columns that are not empty: the distance column, and those of the requested fields. -/
theorem returnColumns_eq_ok (h : c.returnColumns o [.text distance] = .ok columns) (ne : columns ≠ []) :
    .text distance ∈ columns
      ∧ (∀ column ∈ columns, column = .text distance
        ∨ ∃ f ∈ c.schema.fields, o.Requests distance f ∧ column = .text f.storeName.text)
      ∧ ∀ f ∈ c.schema.fields, o.Requests distance f → .text f.storeName.text ∈ columns := by
  by_cases listed : o.returnFields = .null
  · rw [returnColumns, listed] at h
    cases h
    refine ⟨by simp, ?_, ?_⟩
    · intro column hc
      simp only [Schema.storeNames, List.map_map, List.singleton_append, List.mem_cons,
        List.mem_map] at hc
      rcases hc with rfl | ⟨f, hf, rfl⟩
      · exact .inl rfl
      · exact .inr ⟨f, hf, .inl listed, rfl⟩
    · intro f hf _
      refine List.mem_append_right _ (List.mem_map_of_mem ?_)
      exact List.mem_map_of_mem (f := fun f => f.storeName.text) hf
  · obtain ⟨names, given, hn, each, rfl⟩ := returnColumns_listed listed h ne
    have known : ∀ column ∈ given, column = .text distance
        ∨ ∃ f ∈ c.schema.fields, o.Requests distance f ∧ column = .text f.storeName.text := by
      intro column hc
      obtain ⟨name, hm, step⟩ := exists_left_of_mem each hc
      rcases returnColumn_eq_ok step with ⟨_, rfl⟩ | ⟨f, hf, rfl, other, rfl⟩
      · exact .inl rfl
      · exact .inr ⟨f, hf, .inr ⟨names, hn, hm, other⟩, rfl⟩
    have asked : ∀ f ∈ c.schema.fields, o.Requests distance f → .text f.storeName.text ∈ given := by
      intro f hf request
      rcases request with null | ⟨names', hn', hm, other⟩
      · exact absurd null listed
      · rw [hn] at hn'
        cases hn'
        obtain ⟨column, hc, step⟩ := exists_right_of_mem each hm
        rcases returnColumn_eq_ok step with ⟨e, _⟩ | ⟨g, hg, e, _, rfl⟩
        · cases e
          exact absurd rfl other
        · rw [Schema.eq_of_name hf hg (Value.text.inj e)]
          exact hc
    split
    · rename_i among
      obtain ⟨column, hc, same⟩ := List.any_eq_true.1 among
      rw [Value.text_same same] at hc
      exact ⟨hc, known, asked⟩
    · refine ⟨List.mem_cons_self .., ?_, fun f hf r => List.mem_cons_of_mem _ (asked f hf r)⟩
      intro column hc
      rcases List.mem_cons.1 hc with rfl | hc
      · exact .inl rfl
      · exact known column hc

end Compiler

end TypedQuery
