import TypedQuery.Value.Access

/-!
Plans: a query string with everything that goes along with it, ready to be sent. The options block
is a table whose keys stand in a fixed order and are left out when there is nothing to say.
-/
set_option autoImplicit false

namespace TypedQuery

inductive Direction
  | ascending
  | descending
  deriving DecidableEq, Repr

def Direction.label : Direction → String
  | .ascending => "ASC"
  | .descending => "DESC"

def Direction.word (d : Direction) : Value := .text d.label

def Direction.ofLabel? (s : String) : Option Direction :=
  if s = "ASC" then some .ascending else if s = "DESC" then some .descending else none

/-- A sorting as it is sent. The direction is not looked at again. -/
structure SortClause where
  column : Value
  direction : Value

structure Window where
  offset : Value
  size : Value

/-- What a caller may ask for besides the conditions. Without a count the store decides how many
results there are, and without return fields every declared field is returned. -/
structure SearchOptions where
  offset : Value := .int 0
  count : Value := .null
  sortBy : Value := .null
  sortDirection : Value := .text "ASC"
  returnFields : Value := .null

structure Plan where
  indexName : Value
  query : String
  params : List (Value × Value)
  returnFields : List Value
  sort : Option SortClause
  limit : Option Window
  dialect : Value
  scoreFields : List Value

namespace Plan

def paramsEntry (p : Plan) : List (Value × Value) :=
  if p.params.isEmpty then [] else [(.text "PARAMS", .map p.params)]

def sortEntry (p : Plan) : List (Value × Value) :=
  match p.sort with
  | none => []
  | some sort =>
    [(.text "SORTBY", .map [(.text "BY", sort.column),
      (.text "DIRECTION", sort.direction)])]

def limitEntry (p : Plan) : List (Value × Value) :=
  match p.limit with
  | none => []
  | some window =>
    [(.text "LIMIT", .map [(.text "from", window.offset), (.text "size", window.size)])]

def options (p : Plan) : List (Value × Value) :=
  p.paramsEntry ++ [(.text "RETURN", .list p.returnFields)] ++ p.sortEntry ++ p.limitEntry
    ++ [(.text "DIALECT", p.dialect)]

def explain (p : Plan) : Result String := do
  let index ← p.indexName.display
  let listed := joinTexts ", " (← p.returnFields.mapM Value.asText)
  let dialect ← p.dialect.display
  let sortLines ←
    match p.sort with
    | none => pure []
    | some sort => do
      pure ["Sort: " ++ (← sort.column.display) ++ " " ++ (← sort.direction.display)]
  let limitLines ←
    match p.limit with
    | none => pure []
    | some window => do
      pure ["Limit: " ++ (← window.offset.display) ++ " " ++ (← window.size.display)]
  let paramLines ← p.params.mapM fun (name, value) => do
    let shown ← name.display
    return "Param: $" ++ shown ++ " <" ++ natText (← value.length) ++ " bytes>"
  return joinTexts "\n" (
    ["Query Plan", String.ofList (List.replicate 40 '='),
      "Index: " ++ index,
      "Query: " ++ p.query,
      "Return: " ++ (if listed = "" then "(keys only)" else listed),
      "Dialect: " ++ dialect]
    ++ sortLines ++ limitLines ++ paramLines)

end Plan

end TypedQuery
