import TypedQuery.Search.Session

/-!
The ways to ask a search for its matches: their number, one of them, a page, or all. Each comes
for whole records or for identifiers alone, and for identifiers the store sends keys only.
-/
set_option autoImplicit false

namespace TypedQuery

inductive Accessor
  | count
  | first (keysOnly : Bool)
  | extreme (field : Value) (direction : Direction) (keysOnly : Bool)
  | page (offset count : Value) (keysOnly : Bool)
  | all (pageSize : Value) (keysOnly : Bool)

inductive Answer
  | count (n : Int)
  | identifier (id : Option String)
  | record (r : Option Record)
  | identifiers (ids : List String)
  | records (rs : List Record)
  | page (d : Decoded)
  /-- The calls allowed did not reach the end. -/
  | unfinished

namespace Accessor

def ofMethod (method : String) (arguments : List Value) : Result Accessor :=
  let misuse : Result Accessor := .error (.misuse .wrongType)
  let extreme (direction : Direction) (keysOnly : Bool) : Result Accessor :=
    match arguments with
    | [field] => .ok (.extreme field direction keysOnly)
    | _ => misuse
  let plain (a : Accessor) : Result Accessor := if arguments.isEmpty then .ok a else misuse
  let window (keysOnly : Bool) : Result Accessor :=
    match arguments with
    | [offset, size] => .ok (.page offset size keysOnly)
    | _ => misuse
  let whole (keysOnly : Bool) : Result Accessor :=
    match arguments with
    | [] => .ok (.all .null keysOnly)
    | [size] => .ok (.all size keysOnly)
    | _ => misuse
  match method with
  | "return_count" => plain .count
  | "return_first" => plain (.first false)
  | "return_first_id" => plain (.first true)
  | "return_min" => extreme .ascending false
  | "return_min_id" => extreme .ascending true
  | "return_max" => extreme .descending false
  | "return_max_id" => extreme .descending true
  | "return_page" => window false
  | "return_page_of_ids" => window true
  | "return_all" => whole false
  | "return_all_ids" => whole true
  | _ => .error (.misuse .noMember)

end Accessor

/-- One record, or its identifier alone. -/
def Answer.ofRecord (keysOnly : Bool) (r : Option Record) : Answer :=
  if keysOnly then .identifier (r.map Record.identifier) else .record r

namespace Search

/-- The answer to a question. Fetching all matches makes at most `calls` calls. -/
def answer (s : Search) (t : Transport) (calls : Nat) : Accessor → Session Answer
  | .count => .count <$> s.count t .absent
  | .first keysOnly => .ofRecord keysOnly <$> s.firstBy t .null .ascending keysOnly
  | .extreme field direction keysOnly =>
    .ofRecord keysOnly <$> s.firstBy t field direction keysOnly
  | .page offset count keysOnly => do
    let decoded ← s.page t offset count keysOnly
    return if keysOnly then .identifiers decoded.ids else .page decoded
  | .all size keysOnly => do
    match ← s.all t calls size keysOnly with
    | none => return .unfinished
    | some rs =>
      return if keysOnly then .identifiers (rs.map Record.identifier) else .records rs

end Search

end TypedQuery
