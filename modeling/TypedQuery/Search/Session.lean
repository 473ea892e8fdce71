import TypedQuery.Search.Basic
import TypedQuery.Query.Command

/-!
Running searches. A transport answers a call in the light of all calls before it, or fails. What
happens in a session is kept as a trace of calls and notices in their order; a failure ends the
computation but leaves the trace.
-/
set_option autoImplicit false

namespace TypedQuery

structure Call where
  indexName : Value
  query : String
  options : List (Value × Value)

structure Transport where
  /-- The answer to a call after earlier calls, oldest first; a failure has a text. -/
  respond : List Call → Call → Except String Value
  /-- Does the transport spell the command out and report it? -/
  spellsOut : Bool

inductive Event
  | called (call : Call)
  | noticed (notice : Notice)
  /-- The connection was closed. -/
  | closed

/-- What has happened, oldest first. -/
abbrev Trace := List Event

namespace Trace

def calls (t : Trace) : List Call :=
  t.filterMap fun
    | .called call => some call
    | _ => none

def notices (t : Trace) : List Notice :=
  t.filterMap fun
    | .noticed notice => some notice
    | _ => none

/-- How often the connection was closed in a trace. -/
def closings (t : Trace) : Nat :=
  t.countP fun
    | .closed => true
    | _ => false

end Trace

/-- A computation that adds to a trace and may fail. -/
abbrev Session (α : Type) := ExceptT Error (StateM Trace) α

namespace Session

/-- Adds events to the trace. -/
def record (events : Trace) : Session Unit := modify (· ++ events)

def report (notices : List Notice) : Session Unit := record (notices.map .noticed)

/-- A result without a trace of its own. -/
def lift {α : Type} (r : Result α) : Session α :=
  match r with
  | .ok a => pure a
  | .error e => throw e

end Session

namespace Transport

/-- The notice of a transport that spells its command out. -/
def commandNotices (t : Transport) (call : Call) : Result (List Notice) := do
  if !t.spellsOut then return []
  return [⟨.debug, .transport, "FT.SEARCH " ++ (← call.indexName.display) ++ " " ++ call.query⟩]

def send (t : Transport) (call : Call) : Session Value := do
  Session.report (← Session.lift (t.commandNotices call))
  let past := Trace.calls (← get)
  Session.record [.called call]
  match t.respond past call with
  | .ok reply => return reply
  | .error text => throw (.store text)

/-- Closes the connection; a later call opens it again. -/
def close : Session Unit := Session.record [.closed]

/-- A computation behind which the connection is closed, whether it fails or not. -/
def thenClose {α : Type} (body : Session α) : Session α := ExceptT.mk do
  let result ← body.run
  modify (· ++ [.closed])
  return result

end Transport

namespace Search

def execute (t : Transport) (plan : Plan) : Session Value := do
  let index ← Session.lift plan.indexName.display
  Session.report [⟨.debug, .search, "Executing on '" ++ index ++ "': " ++ plan.query⟩]
  t.send ⟨plan.indexName, plan.query, plan.options⟩

def executePlan (s : Search) (t : Transport) (plan : Plan) : Session Decoded := do
  let reply ← execute t plan
  let decoded ← Session.lift (s.decoder.decode plan.scoreFields reply)
  Session.report [⟨.debug, .decoder, "Decoded " ++ natText decoded.records.length ++ " of "
    ++ intText decoded.total ++ " results from '" ++ s.schema.indexName.shown ++ "'"⟩]
  return decoded

def plan (s : Search) (node : Condition) (o : SearchOptions) : Session Plan := do
  Session.report (s.compiler.compileNotices node o)
  Session.lift (s.compiler.compile node o)

/-- Conditions given by the caller, or those of the search. -/
def orConditions (s : Search) (node : Condition) : Condition :=
  if node.isAbsent then s.conditions else node

/-- Compiles, sends and decodes. What is not given is taken from the search. -/
def run (s : Search) (t : Transport) (node : Condition) (o : Option SearchOptions) :
    Session Decoded := do
  let plan ← s.plan (s.orConditions node) (o.getD s.options)
  s.executePlan t plan

/-- The number of matches, without any records. -/
def count (s : Search) (t : Transport) (node : Condition) : Session Int := do
  let o : SearchOptions := { count := .int 0, returnFields := .tuple [] }
  let plan ← s.plan (s.orConditions node) o
  let reply ← execute t plan
  Session.lift (Decoder.decodeCount reply)

/-- Sends a query string of the caller and decodes the reply. -/
def runRaw (s : Search) (t : Transport) (query : Value) (o : Option SearchOptions) :
    Session Decoded := do
  let o := o.getD s.options
  Session.report (s.compiler.compileRawNotices query o)
  let plan ← Session.lift (s.compiler.compileRaw query o)
  s.executePlan t plan

/-! ## Single records -/

/-- The options of a search with only the keys returned, if asked for. -/
def keysOnlyIf (keysOnly : Bool) (o : SearchOptions) : SearchOptions :=
  if keysOnly then { o with returnFields := .tuple [] } else o

/-- The first match, sorted by a field if one is given. -/
def firstBy (s : Search) (t : Transport) (field : Value) (direction : Direction)
    (keysOnly : Bool) : Session (Option Record) := do
  let sorted : SearchOptions :=
    match field with
    | .null => s.options
    | field => { s.options with sortBy := field, sortDirection := .text direction.label }
  let o := keysOnlyIf keysOnly { sorted with offset := .int 0, count := .int 1 }
  let decoded ← s.run t s.conditions (some o)
  return decoded.records.head?

/-! ## Pages -/

def page (s : Search) (t : Transport) (offset count : Value) (keysOnly : Bool) :
    Session Decoded :=
  s.run t s.conditions (some (keysOnlyIf keysOnly { s.options with offset, count }))

/-- The size of the pages that all matches are fetched in. -/
def pageSize (s : Search) (requested : Value) : Result Value := do
  let size := if requested.truthy then requested else s.settings.defaultPageSize
  if ← size.lessThan (.int 1) then refuse (.input (.pageTooSmall size))
  return size

/-- Is there another page after one that ends before `next`? -/
def hasMore (decoded : Decoded) (size next : Nat) : Bool :=
  size ≤ decoded.records.length && (next : Int) < decoded.total

/-- The records from an offset on, page by page. No answer is given once `calls` calls have been
made without reaching the end. -/
def pagesFrom (s : Search) (t : Transport) (size : Nat) (keysOnly : Bool) :
    Nat → Nat → Session (Option (List Record))
  | 0, _ => return none
  | calls + 1, offset => do
    let decoded ← s.page t (.int offset) (.int size) keysOnly
    let next := offset + size
    if hasMore decoded size next then
      let rest ← pagesFrom s t size keysOnly calls next
      return rest.map (decoded.records ++ ·)
    else return some decoded.records

/-- All matches, fetched page by page in at most `calls` calls. A size that is no integer is
refused with the first page. -/
def all (s : Search) (t : Transport) (calls : Nat) (requested : Value) (keysOnly : Bool) :
    Session (Option (List Record)) := do
  let size ← Session.lift (s.pageSize requested)
  match size with
  | .int n => s.pagesFrom t n.toNat keysOnly calls 0
  | size => do
    let decoded ← s.page t (.int 0) size keysOnly
    return some decoded.records

end Search

end TypedQuery
