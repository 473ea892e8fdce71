/-! # Tables by name

Lists of named entries, of which the first with a name counts. Putting a value under a name replaces
what stands under it, or adds an entry at the end. -/

namespace TypedQuery
set_option autoImplicit false

variable {α : Type} (table : List (String × α)) (name other : String) (v : α)

theorem lookup_cons_ite :
    ((name, v) :: table).lookup other = if other = name then some v else table.lookup other := by
  rw [List.lookup_cons]
  by_cases h : other = name
  · simp [h]
  · rw [beq_eq_false_iff_ne.2 h, if_neg h]

theorem lookup_replaced :
    (table.map fun e => if e.1 == name then (name, v) else e).lookup other
      = if other = name then (table.lookup name).map fun _ => v else table.lookup other := by
  induction table with
  | nil => simp
  | cons e rest ih =>
    obtain ⟨key, w⟩ := e
    rw [List.map_cons]
    by_cases hk : key = name
    · simp only [hk, beq_self_eq_true, if_true, lookup_cons_ite, ih]
      split
      · rfl
      · rfl
    · rw [if_neg (by simpa using hk), lookup_cons_ite, lookup_cons_ite, lookup_cons_ite, ih]
      by_cases ho : other = name
      · rw [ho, if_neg (Ne.symm hk), if_pos rfl, if_pos rfl, if_neg (Ne.symm hk)]
      · rw [if_neg ho, if_neg ho]

theorem lookup_put :
    (if table.any fun e => e.1 == name then
        table.map fun e => if e.1 == name then (name, v) else e
      else table ++ [(name, v)]).lookup other
      = if other = name then some v else table.lookup other := by
  split
  · rename_i found
    have held : (table.lookup name).isSome = true := by
      obtain ⟨e, he, same⟩ := List.any_eq_true.1 found
      exact List.lookup_isSome_iff.2 ⟨e, he, by rwa [BEq.comm]⟩
    obtain ⟨w, hw⟩ := Option.isSome_iff_exists.1 held
    rw [lookup_replaced, hw, Option.map_some]
  · rename_i fresh
    have absent : table.lookup name = none := by
      rw [List.lookup_eq_none_iff]
      intro e he
      rw [bne_iff_ne]
      exact fun same => fresh (List.any_eq_true.2 ⟨e, he, beq_iff_eq.2 same.symm⟩)
    rw [List.lookup_append, lookup_cons_ite, List.lookup_nil]
    by_cases ho : other = name
    · rw [ho, absent, if_pos rfl, Option.none_or]
    · rw [if_neg ho, if_neg ho, Option.or_none]

/-- Entries under another name do not matter. -/
theorem lookup_filter_ne (ne : other ≠ name) :
    (table.filter fun e => e.1 ≠ name).lookup other = table.lookup other := by
  induction table with
  | nil => rfl
  | cons e rest ih =>
    obtain ⟨key, w⟩ := e
    rw [List.filter_cons, lookup_cons_ite]
    by_cases hk : key = name
    · rw [if_neg (by simp [hk]), if_neg (hk ▸ ne), ih]
    · rw [if_pos (by simp [hk]), lookup_cons_ite, ih]

end TypedQuery
