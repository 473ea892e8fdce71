import TypedQuery.Field.VectorCodec
import TypedQuery.Query.Emission
import TypedQuery.Query.Plan
import TypedQuery.Settings.Basic
import TypedQuery.Text.Template

/-!
Compiling conditions and options into a plan. A tree has at most one nearest-neighbour predicate,
at its root or directly below a conjunction at the root; the rest of the tree is written before an
arrow, and the vector goes into the parameters. Sorting, returned fields and the window are
checked on their own.
-/
set_option autoImplicit false

namespace TypedQuery

inductive Severity
  | debug
  | warning
  deriving DecidableEq, Repr

/-- The parts of the library that report what they do. -/
inductive Reporter
  | compiler
  | decoder
  | search
  | transport
  deriving DecidableEq, Repr

structure Notice where
  severity : Severity
  reporter : Reporter
  message : String
  deriving DecidableEq, Repr

/-- A schema with the settings that its queries are compiled under. -/
structure Compiler where
  schema : Schema
  settings : Settings

structure NearestClause where
  field : Field
  k : Value
  vector : Value
  scoreAlias : Value

namespace Condition

/-- The nearest-neighbour predicates of a tree, from left to right. -/
def nearestLeaves (c : Condition) : List Condition := c.walk.filter isNearest

/-- Does the predicate stand at the root, or directly below a conjunction at the root? -/
def nearestOnTop (c : Condition) : Bool :=
  match c with
  | .all children => children.any isNearest
  | c => c.isNearest

/-- The tree without the nearest-neighbour predicate on top. A single child that remains stands
for the conjunction. -/
def withoutNearest (c : Condition) : Condition :=
  match c with
  | .all children =>
    match children.filter fun child => !child.isNearest with
    | [child] => child
    | rest => .all rest
  | _ => .absent

end Condition

namespace TemplateFault

def misuse : TemplateFault → Misuse
  | .malformed => .badValue
  | .noSuchPosition => .outOfRange
  | .unknownName => .missingKey
  | .noMember => .noMember
  | .notForThis => .wrongType
  | .tooWide => .outOfMemory
  | .notCharacter => .overflow

end TemplateFault

namespace Compiler

/-! ## Nearest neighbours -/

/-- The nearest-neighbour predicate of a tree, checked, if there is one. -/
def nearestClause? (c : Compiler) (node : Condition) : Result (Option NearestClause) :=
  match node.nearestLeaves with
  | [] => .ok none
  | [.leaf target (.nearest k vector scoreAlias)] =>
    if !node.nearestOnTop then .error (.query .neighboursNested)
    else do
      let f ← c.schema.checkDeclared target
      match f.vectorParams? with
      | none => throw (.mismatch (.targets "VectorKNN" f.type.label f.name.text))
      | some params =>
        params.checkValueLength vector
        return some ⟨f, k, vector, scoreAlias⟩
  | _ => .error (.query .neighboursTwice)

/-- The column under which the store returns the distance. -/
def scoreColumn (c : Compiler) (clause : NearestClause) : Result Value :=
  if clause.scoreAlias.truthy then .ok clause.scoreAlias
  else
    match c.settings.scoreAliasFormat with
    | .text template =>
      match Template.fill "field" clause.field.storeName.text template with
      | .ok s => .ok (.text s)
      | .error fault => .error (.misuse fault.misuse)
    | _ => .error (.misuse .noMember)

/-- What the conditions become: the query string, its parameters and its distance columns, and
the window that they call for. -/
structure Question where
  query : String
  params : List (Value × Value)
  scoreFields : List Value
  window : Option Window

def question (c : Compiler) (node : Condition) : Result Question := do
  match ← c.nearestClause? node with
  | none => return ⟨← c.schema.conditionText node, [], [], none⟩
  | some clause =>
    let filter ← c.schema.conditionText node.withoutNearest
    let column ← c.scoreColumn clause
    let param ← c.settings.vectorParamName.asKey
    let before := if filter = wildcard then filter else inParentheses filter
    let words := ["KNN", ← clause.k.display, "@" ++ clause.field.storeName.text,
      "$" ++ (← param.display), "AS", ← column.display]
    return {
      query := before ++ "=>" ++ inBrackets (joinTexts " " words)
      params := [(param, clause.vector)]
      scoreFields := [column]
      window := some ⟨.int 0, clause.k⟩ }

/-! ## Options -/

/-- An undeclared name in the options is a fault of the query. -/
def declaredIn (s : Schema) (name : Value) : Result Field :=
  (s.get name).mapError Error.inQuery

def directionOf (v : Value) : Result Direction := do
  match Direction.ofLabel? (upperCase (← v.display)) with
  | some direction => return direction
  | none => refuse (.query (.unknownDirection v))

/-- The declared field that the options sort by, if they sort by one. -/
def sortField? (c : Compiler) (o : SearchOptions) (scoreFields : List Value) :
    Result (Option Field) :=
  match o.sortBy with
  | .null => .ok none
  | name =>
    if name.isAmong scoreFields then .ok none
    else do
      let f ← declaredIn c.schema name
      if f.type = .geo ∨ f.type = .vector then
        throw (.query (.unsortable f.type.label f.name.text))
      return some f

/-- The sorting of a plan. Unless asked otherwise, nearer records come first. -/
def sortClause (c : Compiler) (o : SearchOptions) (scoreFields : List Value) :
    Result (Option SortClause) := do
  let direction ← directionOf o.sortDirection
  match ← c.sortField? o scoreFields with
  | some f => return some ⟨.text f.storeName.text, direction.word⟩
  | none =>
    match o.sortBy with
    | .null => return scoreFields.head?.map fun column => ⟨column, Direction.ascending.word⟩
    | name => return some ⟨name, direction.word⟩

/-- The warning that a plan sorts by a field that the index does not keep sorted. -/
def sortNotices (c : Compiler) (o : SearchOptions) (scoreFields : List Value) : List Notice :=
  match c.sortClause o scoreFields, c.sortField? o scoreFields with
  | .ok _, .ok (some f) =>
    if !f.sortable.truthy && c.settings.warnOnUnsortable.truthy then
      [⟨.warning, .compiler, "'" ++ f.name.text ++ "' is not marked as sortable; "
        ++ "sorting may be slow or rejected by the store"⟩]
    else []
  | _, _ => []

def returnColumn (c : Compiler) (scoreFields : List Value) (name : Value) : Result Value :=
  if name.isAmong scoreFields then .ok name
  else do return .text (← declaredIn c.schema name).storeName.text

/-- The columns of a plan. A list that is not empty has the distance columns in front, unless it
names them. -/
def returnColumns (c : Compiler) (o : SearchOptions) (scoreFields : List Value) :
    Result (List Value) :=
  match o.returnFields with
  | .null => .ok (scoreFields ++ c.schema.storeNames.map .text)
  | .text _ => .error (.query .returnFieldsText)
  | names => do
    let columns ← (← names.members).mapM (c.returnColumn scoreFields)
    if columns.isEmpty then return []
    return scoreFields.foldl
      (fun columns column => if column.isAmong columns then columns else column :: columns)
      columns

def windowOf (o : SearchOptions) : Result (Option Window) :=
  match o.count with
  | .null => if o.offset.truthy then .error (.query .offsetAlone) else .ok none
  | count => do
    let (offset, size) ← (checkWindow o.offset count (.int largestWindow)).mapError Error.inQuery
    return some ⟨.int offset, .int size⟩

/-! ## Plans -/

def compile (c : Compiler) (node : Condition) (o : SearchOptions) : Result Plan := do
  let q ← c.question node
  let sort ← c.sortClause o q.scoreFields
  let returnFields ← c.returnColumns o q.scoreFields
  let limit ← windowOf o
  return {
    indexName := c.schema.indexName.value
    query := q.query
    params := q.params
    returnFields, sort
    limit := limit.or q.window
    dialect := c.settings.dialect
    scoreFields := q.scoreFields }

/-- What is reported while a tree is compiled, up to the first failure. -/
def compileNotices (c : Compiler) (node : Condition) (o : SearchOptions) : List Notice :=
  match c.question node with
  | .error _ => []
  | .ok q =>
    c.sortNotices o q.scoreFields ++
      match c.compile node o with
      | .error _ => []
      | .ok plan =>
        [⟨.debug, .compiler,
          "Compiled query for '" ++ c.schema.indexName.shown ++ "': " ++ plan.query⟩]

def rawQuery (v : Value) : Result String :=
  match v with
  | .text s => if isBlankText s then .error (.query .emptyRawQuery) else .ok s
  | _ => .error (.query .emptyRawQuery)

/-- The plan of a query string written by the caller. -/
def compileRaw (c : Compiler) (query : Value) (o : SearchOptions) : Result Plan := do
  let query ← rawQuery query
  let returnFields ← c.returnColumns o []
  let sort ← c.sortClause o []
  let limit ← windowOf o
  return {
    indexName := c.schema.indexName.value
    query, returnFields, sort, limit
    params := []
    dialect := c.settings.dialect
    scoreFields := [] }

/-- What is reported while a query string of the caller is wrapped. -/
def compileRawNotices (c : Compiler) (query : Value) (o : SearchOptions) : List Notice :=
  match rawQuery query, c.returnColumns o [] with
  | .ok _, .ok _ => c.sortNotices o []
  | _, _ => []

end Compiler

end TypedQuery
