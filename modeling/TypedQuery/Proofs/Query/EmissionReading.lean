import TypedQuery.Proofs.Query.ClauseReading

/-! # Written trees are read back

Emission against the reader, by induction on the tree. A nested tree is written as one item, and a
tree that stands alone as a body; either way what is read is its canonical form. -/

namespace TypedQuery
set_option autoImplicit false

namespace Schema

variable {s : Schema}

/-! ## Leaves -/

theorem checkDeclared_eq_ok {f g : Field} {origin : Origin}
    (h : s.checkDeclared (.field f origin) = .ok g) : g = f := by
  simp only [checkDeclared] at h
  split at h
  · split at h
    · cases h
      rfl
    · cases h
  · cases h

theorem checkLeaf_eq_ok {f g : Field} {origin : Origin} {p : Predicate}
    (h : s.checkLeaf (.field f origin) p = .ok g) :
    s.checkDeclared (.field f origin) = .ok f ∧ f.type ∈ p.fits ∧ g = f := by
  obtain ⟨g', declared, h⟩ := bind_eq_ok.1 h
  have same := checkDeclared_eq_ok declared
  split at h
  · rename_i fits
    cases h
    rw [same] at declared fits
    exact ⟨declared, by simpa using fits, same⟩
  · cases h

theorem leafText_eq_ok {f : Field} {origin : Origin} {p : Predicate} {t : String}
    (h : s.leafText (.field f origin) p = .ok t) :
    ∃ clause, p.clause s f = .ok clause ∧ t = "@" ++ f.storeName.text ++ ":" ++ clause := by
  unfold leafText at h
  split at h
  · cases h
  · obtain ⟨g, checked, h⟩ := bind_eq_ok.1 h
    obtain ⟨_, _, same⟩ := checkLeaf_eq_ok checked
    rw [same] at h
    obtain ⟨clause, hc, h⟩ := bind_eq_ok.1 h
    cases h
    exact ⟨clause, hc, rfl⟩

theorem emitAll_eq (s : Schema) (cs : List Condition) : s.emitAll cs = cs.mapM (s.emit true) := by
  induction cs with
  | nil => rfl
  | cons c rest ih => rw [emitAll, ih, List.mapM_cons]

theorem emitAsking_eq (s : Schema) (cs : List Condition) :
    s.emitAsking cs = (cs.filter fun c => !c.isEmpty).mapM (s.emit true) := by
  induction cs with
  | nil => rfl
  | cons c rest ih =>
    rw [emitAsking, ih]
    cases h : c.isEmpty with
    | true => simp [h]
    | false => simp [h]

variable {nested : Bool}

/-- The members of a conjunction: one stands alone, several are in parentheses when nested. -/
def sideBySide (nested : Bool) : List String → String
  | [part] => part
  | parts => if nested then inParentheses (joinTexts " " parts) else joinTexts " " parts

theorem emit_all (cs : List Condition) : s.emit nested (.all cs) = (do
    return sideBySide nested (← (cs.filter fun c => !c.isEmpty).mapM (s.emit true))) := by
  rw [emit, emitAsking_eq]
  cases (cs.filter fun c => !c.isEmpty).mapM (s.emit true) with
  | error e => rfl
  | ok parts => rcases parts with _ | ⟨first, _ | ⟨second, rest⟩⟩ <;> rfl

theorem emit_any_nil : s.emit nested (.any []) = .error (.query .emptyChoice) := by
  simp [emit]

theorem emit_any_of_empty {cs : List Condition} (h : ∃ c ∈ cs, c.isEmpty = true) :
    s.emit nested (.any cs) = .error (.query .emptyAlternative) := by
  obtain ⟨c, hc, empty⟩ := h
  have present : cs.isEmpty = false := by
    rw [List.isEmpty_eq_false_iff]
    exact List.ne_nil_of_mem hc
  have found : cs.any Condition.isEmpty = true := List.any_eq_true.2 ⟨c, hc, empty⟩
  unfold emit
  simp [present, found]

theorem emit_any_one {c : Condition} (h : c.isEmpty = false) :
    s.emit nested (.any [c]) = s.emit nested c := by
  rw [emit]
  simp [h]

theorem emit_any_many {first second : Condition} {rest : List Condition}
    (h : ∀ c ∈ first :: second :: rest, c.isEmpty = false) :
    s.emit nested (.any (first :: second :: rest)) = (do
      return inParentheses (joinTexts " | " (← (first :: second :: rest).mapM (s.emit true)))) := by
  have full : (first :: second :: rest).any Condition.isEmpty = false := by
    simpa using h
  rw [emit, full, emitAll_eq]
  · rfl
  · simp

theorem emit_all_eq_ok {cs : List Condition} {t : String} (h : s.emit nested (.all cs) = .ok t) :
    ∃ parts, List.Forall₂ (fun c part => s.emit true c = .ok part) (cs.filter fun c => !c.isEmpty) parts
      ∧ t = sideBySide nested parts := by
  rw [emit_all] at h
  obtain ⟨parts, written, h⟩ := bind_eq_ok.1 h
  cases h
  exact ⟨parts, mapM_eq_ok.1 written, rfl⟩

/-- A choice is written if each of its members asks something: the only one as it would be alone. -/
theorem emit_any_eq_ok {cs : List Condition} {t : String} (h : s.emit nested (.any cs) = .ok t) :
    (∀ c ∈ cs, c.isEmpty = false) ∧ ((∃ c, cs = [c] ∧ s.emit nested c = .ok t)
      ∨ ∃ parts, List.Forall₂ (fun c part => s.emit true c = .ok part) cs parts
        ∧ 2 ≤ parts.length ∧ t = inParentheses (joinTexts " | " parts)) := by
  by_cases full : ∀ c ∈ cs, c.isEmpty = false
  · refine ⟨full, ?_⟩
    rcases cs with _ | ⟨c, _ | ⟨second, rest⟩⟩
    · rw [emit_any_nil] at h
      cases h
    · rw [emit_any_one (full c (List.mem_singleton_self c))] at h
      exact .inl ⟨c, rfl, h⟩
    · rw [emit_any_many full] at h
      obtain ⟨parts, written, h⟩ := bind_eq_ok.1 h
      cases h
      have written := mapM_eq_ok.1 written
      exact .inr ⟨parts, written, by simp [← written.length_eq], rfl⟩
  · have found : ∃ c ∈ cs, c.isEmpty = true := by simpa using full
    rw [emit_any_of_empty found] at h
    cases h

theorem emit_negation_eq_ok {c : Condition} {t : String}
    (h : s.emit nested (.negation c) = .ok t) :
    c.isEmpty = false ∧ ∃ body, s.emit false c = .ok body ∧ t = "-" ++ inParentheses body := by
  rw [emit] at h
  split at h
  · cases h
  · rename_i asking
    obtain ⟨body, written, h⟩ := bind_eq_ok.1 h
    cases h
    exact ⟨by simpa using asking, body, written, rfl⟩

end Schema

end TypedQuery
