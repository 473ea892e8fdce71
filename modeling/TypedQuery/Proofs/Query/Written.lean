import TypedQuery.Proofs.Query.EmissionReading

/-! # What conditions are written with

Whatever the texts, tags and numbers in conditions are, in what is written for them an at sign, an
arrow head or a backslash stands behind a backslash, or it is the at sign before the store name of a
field and a colon. -/

namespace TypedQuery
set_option autoImplicit false

/-- The characters that mark a field, an arrow and an escaped character. -/
def queryMarks : List Char := ['@', '>', '\\']

def isPlain (c : Char) : Bool := !queryMarks.contains c

theorem isPlain_iff {c : Char} : isPlain c = true ↔ c ∉ queryMarks := by
  rw [isPlain, Bool.not_eq_true', ← Bool.not_eq_true, List.contains_iff_mem]

theorem FieldName.all_plain (n : FieldName) : n.text.toList.all isPlain = true := by
  have marks : (queryMarks.all fun c => !(FieldChar c ∨ c = '\n')) = true := by decide
  rw [List.all_eq_true]
  intro c hc
  rw [isPlain_iff]
  intro mark
  have none := List.all_eq_true.1 marks c mark
  rw [decide_eq_true (n.char_cases hc)] at none
  cases none

inductive Schema.Written (s : Schema) : List Char → Prop
  | nil : Written s []
  | plain {c : Char} {cs : List Char} : isPlain c = true → Written s cs → Written s (c :: cs)
  | escaped {c : Char} {cs : List Char} : Written s cs → Written s ('\\' :: c :: cs)
  | name {f : Field} {cs : List Char} : f ∈ s.fields → Written s cs →
    Written s ('@' :: (f.storeName.text.toList ++ ':' :: cs))

namespace Schema

variable {s : Schema} {cs ds : List Char}

/-! ## Texts side by side -/

theorem Written.append (front : s.Written cs) (back : s.Written ds) : s.Written (cs ++ ds) := by
  induction front with
  | nil => exact back
  | plain plain _ ih => exact .plain plain ih
  | escaped _ ih => exact .escaped ih
  | name declared _ ih =>
    rw [List.cons_append, List.append_assoc, List.cons_append]
    exact .name declared ih

theorem written_plain (plain : cs.all isPlain = true) : s.Written cs := by
  induction cs with
  | nil => exact .nil
  | cons c cs ih =>
    rw [List.all_cons, Bool.and_eq_true] at plain
    exact .plain plain.1 (ih plain.2)

theorem written_escapeChars {special : Char → Bool} (marks : queryMarks.all special = true)
    (cs : List Char) : s.Written (escapeChars special cs) := by
  induction cs with
  | nil => exact .nil
  | cons c cs ih =>
    rw [escapeChars, List.flatMap_cons]
    split
    · exact .escaped ih
    · rename_i plain
      exact .plain (isPlain_iff.2 fun mark => plain (List.all_eq_true.1 marks c mark)) ih

theorem written_append {t u : String} (front : s.Written t.toList) (back : s.Written u.toList) :
    s.Written (t ++ u).toList := by
  rw [String.toList_append]
  exact front.append back

theorem written_around {front back t : String}
    (plain : front.toList.all isPlain = true ∧ back.toList.all isPlain = true)
    (written : s.Written t.toList) : s.Written (front ++ t ++ back).toList :=
  written_append (written_append (written_plain plain.1) written) (written_plain plain.2)

theorem written_joinTexts {separator : String} (plain : separator.toList.all isPlain = true)
    {ts : List String} (each : ∀ t ∈ ts, s.Written t.toList) :
    s.Written (joinTexts separator ts).toList := by
  induction ts with
  | nil => exact .nil
  | cons t rest ih =>
    have first := each t (List.mem_cons_self ..)
    have others := ih fun u hu => each u (List.mem_cons_of_mem _ hu)
    cases rest with
    | nil => exact first
    | cons u more =>
      exact written_append (written_append first (written_plain plain)) others

/-! ## Clauses -/

theorem written_number {v : Value} {t : String} (h : v.queryNumber = .ok t) : s.Written t.toList := by
  have marks : (queryMarks.all fun c => !isTokenChar c) = true := by decide
  refine written_plain (List.all_eq_true.2 fun c met => isPlain_iff.2 fun mark => ?_)
  have other := List.all_eq_true.1 marks c mark
  rw [queryNumber_tokenChars h c met] at other
  cases other

theorem written_tag (t : String) : s.Written (escapeTag t).toList := by
  rw [escapeTag, String.toList_ofList]
  exact written_escapeChars (by decide) _

theorem written_text (t : String) : s.Written (escapeText t).toList := by
  rw [escapeText, String.toList_ofList]
  exact written_escapeChars (by decide) _

theorem written_bound {infinity t : String} {bound inclusive : Value}
    (plain : infinity.toList.all isPlain = true) (h : boundText infinity bound inclusive = .ok t) :
    s.Written t.toList := by
  unfold boundText at h
  split at h
  · cases h
    exact written_plain plain
  · obtain ⟨token, number, h⟩ := bind_eq_ok.1 h
    cases h
    split
    · exact written_number number
    · exact written_append (written_plain (by decide)) (written_number number)

theorem written_pair {low high : String} (first : s.Written low.toList)
    (second : s.Written high.toList) : s.Written (inBrackets (low ++ " " ++ high)).toList := by
  have gap : s.Written " ".toList := written_plain (by decide)
  exact written_around (by decide) (written_append (written_append first gap) second)

/-- The clause of a well-made predicate. -/
theorem written_clause {f : Field} {p : Predicate} {t : String} (made : p.WellMade f)
    (h : p.clause s f = .ok t) : s.Written t.toList := by
  cases made with
  | @truth b type_eq =>
    simp only [Predicate.clause, type_eq] at h
    cases h
    refine written_around (by decide) (written_plain ?_)
    unfold Schema.truthWord
    split <;> cases b <;> decide
  | number type_eq =>
    rcases type_eq with type_eq | type_eq
    all_goals
      simp only [Predicate.clause, type_eq] at h
      obtain ⟨token, number, h⟩ := bind_eq_ok.1 h
      cases h
      exact written_pair (written_number number) (written_number number)
  | @tag tag type_eq =>
    simp only [Predicate.clause, type_eq, Value.asText, ok_bind] at h
    cases h
    exact written_around (by decide) (written_tag tag)
  | @phrase phrase type_eq =>
    simp only [Predicate.clause, type_eq, Value.asText, ok_bind] at h
    cases h
    exact written_around (by decide) (written_text phrase)
  | range =>
    simp only [Predicate.clause] at h
    obtain ⟨low, hl, h⟩ := bind_eq_ok.1 h
    obtain ⟨high, hh, h⟩ := bind_eq_ok.1 h
    cases h
    exact written_pair (written_bound (by decide) hl) (written_bound (by decide) hh)
  | @contains tags _ ne =>
    simp only [Predicate.clause, mapM_escapeTag, ok_bind] at h
    cases h
    refine written_around (by decide) (written_joinTexts (by decide) ?_)
    intro t ht
    obtain ⟨tag, _, rfl⟩ := List.mem_map.1 ht
    exact written_tag tag
  | @terms pattern exact type_eq =>
    simp only [Predicate.clause, Value.asText, map_ok, ok_bind] at h
    cases h
    split
    · exact written_around (by decide) (written_text pattern)
    · exact written_around (by decide) (written_text pattern)
  | @within x y r unit _ known =>
    obtain ⟨parts, numbers, h⟩ := bind_eq_ok.1 h
    cases h
    refine written_around (by decide) (written_joinTexts (by decide) ?_)
    intro t ht
    rcases List.mem_append.1 ht with number | last
    · obtain ⟨v, _, written⟩ := exists_left_of_mem (mapM_eq_ok.1 numbers) number
      exact written_number written
    · rw [List.mem_singleton.1 last]
      refine written_plain ?_
      simp only [Condition.distanceUnits, List.mem_cons, List.not_mem_nil, or_false] at known
      rcases known with rfl | rfl | rfl | rfl
      all_goals decide
  | nearest => cases h

/-! ## Trees -/

theorem written_leafText {f : Field} {origin : Origin} {p : Predicate} {t : String}
    (declared : f ∈ s.fields) (made : p.WellMade f)
    (h : s.leafText (.field f origin) p = .ok t) : s.Written t.toList := by
  obtain ⟨clause, written, rfl⟩ := leafText_eq_ok h
  have text : ("@" ++ f.storeName.text ++ ":" ++ clause).toList
      = '@' :: (f.storeName.text.toList ++ ':' :: clause.toList) := by simp
  rw [text]
  exact .name declared (written_clause made written)

theorem written_sideBySide {nested : Bool} {parts : List String}
    (each : ∀ t ∈ parts, s.Written t.toList) : s.Written (sideBySide nested parts).toList := by
  unfold sideBySide
  split
  · exact each _ (List.mem_cons_self ..)
  · have joined : s.Written (joinTexts " " parts).toList := written_joinTexts (by decide) each
    split
    · exact written_around (by decide) joined
    · exact joined

/-- What is written for a tree of built leaves. -/
theorem written_emit {c : Condition} (made : c.MadeOf (Condition.Built s)) {nested : Bool}
    {t : String} (h : s.emit nested c = .ok t) : s.Written t.toList := by
  induction c using Condition.induct generalizing nested t with
  | leaf target p =>
    obtain ⟨f, p, declared, e, well⟩ := (Condition.madeOf_leaf.1 made).wellMade
    cases e
    rw [emit] at h
    exact written_leafText declared well h
  | all cs ih =>
    obtain ⟨parts, written, rfl⟩ := emit_all_eq_ok h
    refine written_sideBySide fun t ht => ?_
    obtain ⟨c, hc, written⟩ := exists_left_of_mem written ht
    have hc := (List.mem_filter.1 hc).1
    exact ih c hc (Condition.madeOf_all.1 made c hc) written
  | any cs ih =>
    obtain ⟨_, alone | several⟩ := emit_any_eq_ok h
    · obtain ⟨c, rfl, written⟩ := alone
      have hc : c ∈ [c] := List.mem_singleton_self c
      exact ih c hc (Condition.madeOf_any.1 made c hc) written
    · obtain ⟨parts, written, _, rfl⟩ := several
      refine written_around (by decide) (written_joinTexts (by decide) fun t ht => ?_)
      obtain ⟨c, hc, written⟩ := exists_left_of_mem written ht
      exact ih c hc (Condition.madeOf_any.1 made c hc) written
  | negation c ih =>
    obtain ⟨_, body, written, rfl⟩ := emit_negation_eq_ok h
    refine written_append (written_plain (by decide)) (written_around (by decide) ?_)
    exact ih (Condition.madeOf_negation.1 made) written
  | blank => rw [emit] at h; cases h
  | foreign v => rw [emit] at h; cases h

theorem written_conditionText {c : Condition} {t : String}
    (made : c.MadeOf (Condition.Built s)) (h : s.conditionText c = .ok t) : s.Written t.toList := by
  unfold conditionText at h
  split at h
  · cases h
    exact written_plain (by decide)
  · exact written_emit made h

end Schema

end TypedQuery
