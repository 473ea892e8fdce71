import TypedQuery.Value.Arguments
import TypedQuery.Text.Casing

/-!
Settings: what is sent with every query, how a distance column is named, how pages are cut, and
which words of a reply stand for numbers. The words are kept in lower case.
-/
set_option autoImplicit false

namespace TypedQuery

/-- Words that stand for numbers, in lower case and each once. -/
abbrev Sentinels := List (String × Double)

/-- The words known unless others are given. -/
def defaultSentinels : Sentinels :=
  [("inf", .infinite false), ("+inf", .infinite false), ("infinity", .infinite false),
    ("+infinity", .infinite false), ("-inf", .infinite true), ("-infinity", .infinite true),
    ("nan", .notANumber), ("-nan", .notANumber)]

namespace Sentinels

/-- A word added, or given another number. -/
def insert (words : Sentinels) (word : String) (x : Double) : Sentinels :=
  if words.any fun e => e.1 == word then
    words.map fun e => if e.1 == word then (word, x) else e
  else words ++ [(word, x)]

/-- The word of a key. -/
def wordOf (k : Value) : Result String := lowerCase <$> k.display

/-- The entries of a table of words added to others. -/
def insertEntries (words : Sentinels) : List (Value × Value) → Result Sentinels
  | [] => .ok words
  | (k, v) :: rest => do
    let word ← wordOf k
    let x ← v.toDouble
    (words.insert word x).insertEntries rest

end Sentinels

structure Settings where
  dialect : Value := .int 2
  defaultPageSize : Value := .int 10
  vectorParamName : Value := .text "query_vector"
  scoreAliasFormat : Value := .text "__\x7bfield\x7d_score"
  sentinels : Sentinels := defaultSentinels
  warnOnUnsortable : Value := .bool true
  logLevel : Value := .text "WARNING"

namespace Settings

/-- The names of the settings other than the words. -/
def plainNames : List String :=
  ["dialect", "default_page_size", "vector_param_name", "score_alias_format",
    "warn_on_unsortable", "log_level"]

/-- Settings from named arguments, with these words for numbers. -/
def assemble (given : Arguments) (sentinels : Sentinels) : Settings :=
  let absent : Settings := {}
  { dialect := given.get "dialect" absent.dialect
    defaultPageSize := given.get "default_page_size" absent.defaultPageSize
    vectorParamName := given.get "vector_param_name" absent.vectorParamName
    scoreAliasFormat := given.get "score_alias_format" absent.scoreAliasFormat
    sentinels
    warnOnUnsortable := given.get "warn_on_unsortable" absent.warnOnUnsortable
    logLevel := given.get "log_level" absent.logLevel }

/-- Settings from named arguments. A table of words replaces the default one. -/
def ofArguments (given : Arguments) : Result Settings := do
  given.check [] ("numeric_sentinels" :: plainNames)
  let sentinels ←
    match given.lookup "numeric_sentinels" with
    | none => pure defaultSentinels
    | some v => Sentinels.insertEntries [] (← v.entries)
  return assemble given sentinels

/-- One entry of a table from a value that has to be a pair. -/
def pairOf (v : Value) : Result (Value × Value) :=
  match v.members with
  | .error e => .error e
  | .ok [k, w] => do return (← k.asKey, w)
  | .ok _ => .error (.misuse .badValue)

/-- A table from a value: a table itself, or a sequence of pairs. -/
def tableOf (v : Value) : Result (List (Value × Value)) :=
  match v with
  | .map entries => .ok entries
  | v => do
    let pairs ← (← v.members).mapM pairOf
    return pairs.foldl (fun entries e => Value.insertEntry entries e.1 e.2) []

/-- Settings from a table. A table of words is added to the default one. -/
def ofTable (v : Value) : Result Settings := do
  let entries ← tableOf v
  let words := Value.lookup? entries "numeric_sentinels"
  let rest := entries.filter fun e => !e.1.same (.text "numeric_sentinels")
  let given ← Arguments.ofEntries rest
  given.check [] plainNames
  let sentinels ←
    match words with
    | none => pure defaultSentinels
    | some w =>
      if w.truthy then Sentinels.insertEntries defaultSentinels (← w.entries)
      else pure defaultSentinels
  return assemble given sentinels

def toTable (s : Settings) : Value :=
  .map [(.text "dialect", s.dialect), (.text "default_page_size", s.defaultPageSize),
    (.text "vector_param_name", s.vectorParamName),
    (.text "score_alias_format", s.scoreAliasFormat),
    (.text "numeric_sentinels",
      .map (s.sentinels.map fun (word, x) => (.text word, .double x))),
    (.text "warn_on_unsortable", s.warnOnUnsortable), (.text "log_level", s.logLevel)]

end Settings

end TypedQuery
