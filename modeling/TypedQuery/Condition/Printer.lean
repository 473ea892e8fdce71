import TypedQuery.Condition.Basic

/-!
Conditions as text: the name of a node and its parts by name. Of a query vector only the length
is shown.
-/
set_option autoImplicit false

namespace TypedQuery

def Predicate.parts : Predicate → List (String × Value)
  | .equals value => [("value", value)]
  | .range lower upper lowerInclusive upperInclusive =>
    [("lower", lower), ("upper", upper), ("lower_inclusive", lowerInclusive),
      ("upper_inclusive", upperInclusive)]
  | .contains values => [("values", .tuple values)]
  | .terms pattern exact => [("pattern", pattern), ("exact", exact)]
  | .within longitude latitude radius unit =>
    [("longitude", longitude), ("latitude", latitude), ("radius", radius), ("unit", unit)]
  | .nearest k vector scoreAlias => [("k", k), ("vector", vector), ("score_alias", scoreAlias)]

namespace Condition

/-- A leaf as text. The nearest-neighbour predicate needs a field and a vector with a length. -/
def leafText (target : Target) (predicate : Predicate) : Result String :=
  match predicate with
  | .nearest k vector _ =>
    match target with
    | .field f _ => do
      let shown ← k.display
      let length ← vector.length
      return "VectorKNN(field=" ++ quotedText f.name.text ++ ", k=" ++ shown ++ ", vector=<"
        ++ natText length ++ " bytes>)"
    | .other _ => .error (.misuse .noMember)
  | predicate => do
    let field ← target.literal
    let parts ← predicate.parts.mapM fun (name, v) => do return name ++ "=" ++ (← v.literal)
    return predicate.typeName ++ "(" ++ joinTexts ", " (("field=" ++ field) :: parts) ++ ")"

/-- Texts in brackets; a single one keeps a comma. -/
def bracketed : List String → String
  | [s] => "(" ++ s ++ ",)"
  | texts => "(" ++ joinTexts ", " texts ++ ")"

mutual

def literal : Condition → Result String
  | .leaf target predicate => leafText target predicate
  | .all children => do return "And(children=" ++ bracketed (← literals children) ++ ")"
  | .any children => do return "Or(children=" ++ bracketed (← literals children) ++ ")"
  | .negation child => do return "Not(child=" ++ (← literal child) ++ ")"
  | .blank => .ok "ConditionNode()"
  | .foreign v => v.literal

def literals : List Condition → Result (List String)
  | [] => .ok []
  | c :: rest => do return (← literal c) :: (← literals rest)

end

end Condition

end TypedQuery
