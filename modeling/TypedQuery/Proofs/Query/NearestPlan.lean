import TypedQuery.Proofs.Query.EmissionReading
import TypedQuery.Proofs.Query.NearestOnTop
import TypedQuery.Proofs.Query.Windows
import TypedQuery.Proofs.Schema.Lookup

/-! # Plans for nearest neighbours

A plan keeps both halves of a tree with a nearest-neighbour predicate: what the other conditions ask
stands before the arrow, and the predicate with its vector after it and in the parameters. -/

namespace TypedQuery
set_option autoImplicit false

/-! ## What a plan holds -/

namespace Compiler

open Condition Schema

variable {c : Compiler} {node : Condition} {o : SearchOptions}

/-! ## The declared field -/

variable {target : Target} {k vector scoreAlias : Value}

theorem checkDeclared_field {s : Schema} {f : Field} (h : s.checkDeclared target = .ok f) :
    ∃ origin, target = .field f origin := by
  cases target with
  | field g origin => exact ⟨origin, by rw [checkDeclared_eq_ok h]⟩
  | other v => cases h

theorem checkValueLength_eq_ok {params : VectorParams} {v : Value}
    (h : params.checkValueLength v = .ok ()) : v.length = .ok params.vectorBytes := by
  obtain ⟨length, measured, fits⟩ := bind_eq_ok.1 h
  rw [measured, checkLength_eq_ok fits]

theorem nearestClause?_eq_ok {found : Option NearestClause}
    (once : node.nearestLeaves = [.leaf target (.nearest k vector scoreAlias)])
    (h : c.nearestClause? node = .ok found) :
    node.nearestOnTop = true ∧ ∃ f origin params, target = .field f origin
      ∧ c.schema.checkDeclared (.field f origin) = .ok f ∧ f.vectorParams? = some params
      ∧ vector.length = .ok params.vectorBytes ∧ found = some ⟨f, k, vector, scoreAlias⟩ := by
  simp only [nearestClause?, once] at h
  cases top : node.nearestOnTop with
  | false =>
    rw [top] at h
    cases h
  | true =>
    simp only [top, Bool.not_true, Bool.false_eq_true, if_false] at h
    obtain ⟨f, declared, checked⟩ := bind_eq_ok.1 h
    obtain ⟨origin, rfl⟩ := checkDeclared_field declared
    split at checked
    · cases checked
    · rename_i params vectors
      obtain ⟨_, measured, checked⟩ := bind_eq_ok.1 checked
      cases checked
      exact ⟨rfl, f, origin, params, rfl, declared, vectors, checkValueLength_eq_ok measured, rfl⟩

/-- The question of a tree with one predicate: the rest of the tree before the arrow, the predicate
after it. -/
theorem question_eq_ok {q : Question}
    (once : node.nearestLeaves = [.leaf target (.nearest k vector scoreAlias)])
    (h : c.question node = .ok q) :
    node.nearestOnTop = true ∧ ∃ f origin params, target = .field f origin
      ∧ c.schema.checkDeclared (.field f origin) = .ok f ∧ f.vectorParams? = some params
      ∧ vector.length = .ok params.vectorBytes
      ∧ ∃ filter column, c.schema.conditionText node.withoutNearest = .ok filter
        ∧ c.scoreColumn ⟨f, k, vector, scoreAlias⟩ = .ok column
        ∧ ∃ count param name, k.display = .ok count ∧ c.settings.vectorParamName.display = .ok param
        ∧ column.display = .ok name ∧ q = {
          query := (if filter = wildcard then filter else inParentheses filter) ++ "=>"
            ++ inBrackets (joinTexts " " ["KNN", count, "@" ++ f.storeName.text, "$" ++ param, "AS",
              name])
          params := [(c.settings.vectorParamName, vector)]
          scoreFields := [column]
          window := some ⟨.int 0, k⟩ } := by
  obtain ⟨found, looked, h⟩ := bind_eq_ok.1 h
  obtain ⟨top, f, origin, params, rfl, declared, vectors, length, rfl⟩ :=
    nearestClause?_eq_ok once looked
  obtain ⟨filter, written, h⟩ := bind_eq_ok.1 h
  obtain ⟨column, named, h⟩ := bind_eq_ok.1 h
  obtain ⟨key, keyed, h⟩ := bind_eq_ok.1 h
  obtain ⟨count, counted, h⟩ := bind_eq_ok.1 h
  obtain ⟨param, shown, h⟩ := bind_eq_ok.1 h
  obtain ⟨name, entitled, h⟩ := bind_eq_ok.1 h
  cases h
  rw [← Value.asKey_eq_ok keyed] at shown ⊢
  exact ⟨top, f, origin, params, rfl, declared, vectors, length, filter, column, written, named,
    count, param, name, counted, shown, entitled, rfl⟩

/-- A tree has the question of its conditions alone, or it has one predicate. -/
theorem question_cases {q : Question} (h : c.question node = .ok q) :
    (node.nearestLeaves = [] ∧ ∃ text, c.schema.conditionText node = .ok text
        ∧ q = ⟨text, [], [], none⟩)
      ∨ ∃ target k vector scoreAlias,
        node.nearestLeaves = [.leaf target (.nearest k vector scoreAlias)] := by
  obtain ⟨found, looked, h⟩ := bind_eq_ok.1 h
  unfold nearestClause? at looked
  split at looked
  · rename_i plain
    cases looked
    obtain ⟨text, written, h⟩ := bind_eq_ok.1 h
    cases h
    exact .inl ⟨plain, text, written, rfl⟩
  · rename_i once
    exact .inr ⟨_, _, _, _, once⟩
  · cases looked

/-! ## The plan -/

theorem compile_eq_ok {p : Plan} (h : c.compile node o = .ok p) :
    ∃ q limit, c.question node = .ok q ∧ c.sortClause o q.scoreFields = .ok p.sort
      ∧ c.returnColumns o q.scoreFields = .ok p.returnFields ∧ windowOf o = .ok limit
      ∧ p.query = q.query ∧ p.params = q.params ∧ p.scoreFields = q.scoreFields
      ∧ p.limit = limit.or q.window := by
  obtain ⟨q, asked, h⟩ := bind_eq_ok.1 h
  obtain ⟨sort, sorted, h⟩ := bind_eq_ok.1 h
  obtain ⟨columns, returned, h⟩ := bind_eq_ok.1 h
  obtain ⟨limit, windowed, h⟩ := bind_eq_ok.1 h
  cases h
  exact ⟨q, limit, asked, sorted, returned, windowed, rfl, rfl, rfl, rfl⟩

end Compiler

end TypedQuery
