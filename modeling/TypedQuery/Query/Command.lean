import TypedQuery.Query.Plan

/-!
The search command: the index, the query and the options block as one flat list of arguments.
Every option is a keyword followed by its values, and those of varying number are counted.
-/
set_option autoImplicit false

namespace TypedQuery

namespace Command

/-- The columns to return, counted. -/
def returnArguments (options : List (Value × Value)) : Result (List Value) :=
  match Value.lookup? options "RETURN" with
  | none => .ok []
  | some v => do
    let columns ← v.members
    return [.text "RETURN", .int columns.length] ++ columns

/-- The column to sort by, with its direction. -/
def sortArguments (options : List (Value × Value)) : Result (List Value) :=
  match Value.lookup? options "SORTBY" with
  | none => .ok []
  | some v =>
    if v.truthy then do
      let column ← v.entry "BY"
      let entries ← v.entries
      let direction := (Value.lookup? entries "DIRECTION").getD (.text "ASC")
      return [.text "SORTBY", column, direction]
    else .ok []

def limitArguments (options : List (Value × Value)) : Result (List Value) :=
  match Value.lookup? options "LIMIT" with
  | none => .ok []
  | some v =>
    if v.truthy then do
      let offset ← v.entry "from"
      let size ← v.entry "size"
      return [.text "LIMIT", offset, size]
    else .ok []

/-- The parameters, names and values counted together. -/
def paramArguments (options : List (Value × Value)) : Result (List Value) :=
  match Value.lookup? options "PARAMS" with
  | none => .ok []
  | some v =>
    if v.truthy then do
      let length ← v.length
      let entries ← v.entries
      return [.text "PARAMS", .int (length * 2)] ++ entries.flatMap fun e => [e.1, e.2]
    else .ok []

def dialectArguments (options : List (Value × Value)) : List Value :=
  match Value.lookup? options "DIALECT" with
  | none => []
  | some v => [.text "DIALECT", v]

/-- The options block that a value holds. What is no table has no options, and one that holds the
keyword of the columns, as a member or within its text, is none to look it up in. -/
def optionsOf : Value → Result (List (Value × Value))
  | .map entries => .ok entries
  | .text s =>
    .error (.misuse (if (s.splitOn "RETURN").length = 1 then .noMember else .wrongType))
  | v =>
    match v.items? with
    | some items =>
      .error (.misuse (if (Value.text "RETURN").isAmong items then .wrongType else .noMember))
    | none => .error (.misuse .wrongType)

def arguments (index query : Value) (options : List (Value × Value)) : Result (List Value) := do
  let columns ← returnArguments options
  let sort ← sortArguments options
  let limit ← limitArguments options
  let params ← paramArguments options
  return [.text "FT.SEARCH", index, query] ++ columns ++ sort ++ limit ++ params
    ++ dialectArguments options

end Command

/-- The arguments of the search command of a plan. -/
def Plan.arguments (p : Plan) : Result (List Value) :=
  Command.arguments p.indexName (.text p.query) p.options

end TypedQuery
