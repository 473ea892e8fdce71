import TypedQuery.Logging.LineLayout
import TypedQuery.Query.Compile
import TypedQuery.Storage.Path

/-!
Loggers and what they write. A logger's name is a path of words with dots between them; above it
is the logger with the longest name on that path, or the one above all others. A message goes to
the handlers of its logger and of all loggers above. A logger without a level of its own has that
of the nearest one above it with a level.
-/
set_option autoImplicit false

namespace TypedQuery

inductive Destination
  | console
  | file (path : String)
  deriving DecidableEq, Repr

def Destination.label : Destination → String
  | .console => "StreamHandler"
  | .file _ => "FileHandler"

/-- A handler writes lines of one layout to one destination. -/
structure Handler where
  destination : Destination
  layout : String
  deriving DecidableEq, Repr

/-- The level and the handlers of a logger, and the logger above it. -/
structure Logger where
  level : Level := .notSet
  handlers : List Handler := []
  above : String := ""
  deriving DecidableEq, Repr

/-- All loggers by name, the names under which loggers were handed out, and the files written.
The logger above all others comes first and has the empty name. -/
structure Registry where
  loggers : List (String × Logger)
  known : List Value
  files : List (String × String)

def packageLogger : String := "omsearch"

namespace Registry

/-- The name under which the logger above all others writes. -/
def shownName (name : String) : String := if name = "" then "root" else name

/-! ## Loggers above loggers -/

/-- A logger; one that was never asked for has no level and no handlers. -/
def logger (r : Registry) (name : String) : Logger := (r.loggers.lookup name).getD {}

def has (r : Registry) (name : String) : Bool := r.loggers.any fun e => e.1 == name

/-- The beginnings of a path that end before a dot, the longest first, all from the last
character. Of a beginning that ends with a dot itself, the shorter one before that dot does not
count. -/
def beginnings : List Char → List (List Char)
  | [] => []
  | ['.'] => []
  | '.' :: c :: rest => (c :: rest) :: beginnings rest
  | _ :: rest => beginnings rest

/-- The names that may be above a name, the nearest first. -/
def namesAbove (name : String) : List String :=
  (beginnings name.toList.reverse).map fun cs => String.ofList cs.reverse

/-- The logger after a new one has come between it and the one above it. -/
def belowNew (new name : String) (l : Logger) : Logger :=
  if (namesAbove name).contains new && !new.toList.isPrefixOf (shownName l.above).toList then
    { l with above := new }
  else l

/-- Asks for a logger, which is made if it is new. -/
def enlist (r : Registry) (name : String) : Registry :=
  if r.has name then r
  else
    let above := ((namesAbove name).find? r.has).getD ""
    let loggers := r.loggers.map fun e => (e.1, belowNew name e.1 e.2)
    { r with loggers := loggers ++ [(name, { above })] }

def change (r : Registry) (name : String) (f : Logger → Logger) : Registry :=
  { r with loggers := r.loggers.map fun e => if e.1 == name then (e.1, f e.2) else e }

/-- The names of a logger and of those above it, `count` of them at most. -/
def lineageUpTo (r : Registry) : Nat → String → List String
  | 0, _ => []
  | count + 1, name =>
    if name = "" then [""] else name :: r.lineageUpTo count (r.logger name).above

/-- The names of a logger and of all above it. -/
def lineage (r : Registry) (name : String) : List String :=
  r.lineageUpTo (r.loggers.length + 1) name

/-- The loggers of the library, before anything else is set up. -/
def initial : Registry :=
  let parts := ["omsearch.query.compiler", "omsearch.query.decoder", "omsearch.query.search",
    "omsearch.transport"]
  { loggers :=
      [("", { level := .warning }),
        (packageLogger, { level := .warning, handlers := [⟨.console, LineLayout.standard⟩] })]
        ++ parts.map fun name => (name, { above := packageLogger })
    known := (packageLogger :: parts).map .text
    files := [] }

/-! ## Levels -/

/-- The level that decides what a logger lets through. -/
def effectiveLevel (r : Registry) (name : String) : Level :=
  (((r.lineage name).map fun n => (r.logger n).level).find? (· ≠ .notSet)).getD .notSet

/-- Does a logger let messages of a level through? A message without a level goes nowhere. -/
def lets (r : Registry) (name : String) (level : Level) : Bool :=
  level ≠ .notSet && (r.effectiveLevel name).rank ≤ level.rank

def setLevel (r : Registry) (name : String) (level : Level) : Registry :=
  r.change name fun l => { l with level }

/-- Runs a computation while a logger has another level, and then gives the logger its level
back. -/
def withLevel {α : Type} (r : Registry) (name : String) (level : Level)
    (body : Registry → Registry × α) : Registry × α :=
  let (r', a) := body (r.setLevel name level)
  (r'.setLevel name (r.logger name).level, a)

/-! ## Files -/

def append (r : Registry) (name text : String) : Registry :=
  if r.files.any fun e => e.1 == name then
    { r with files := r.files.map fun e => if e.1 == name then (name, e.2 ++ text) else e }
  else { r with files := r.files ++ [(name, text)] }

/-- The name of the file at a path. There are no directories beside the working directory and
those above it. -/
def fileAt (r : Registry) (path : String) : Result String :=
  let p := Path.ofText path
  if path.toList.contains '\x00' then .error (.misuse .badValue)
  else
    match p.collapsed with
    | (_, []) => .error (.storage .directory)
    | (up, name :: more) =>
      if Path.isLongName name then .error (.storage .longName)
      else if p.lead = "" ∧ up = 0 ∧ more = [] then .ok name
      else if r.files.any fun e => e.1 == name then .error (.storage .blocked)
      else .error (.storage .missing)

/-! ## Setting up -/

/-- The name of the logger that a value names: nothing names the one above all others. -/
def nameOf (v : Value) : Result String :=
  match v with
  | .text s => .ok (if s = "root" then "" else s)
  | v => if v.truthy then .error (.misuse .wrongType) else .ok ""

/-- The layout that a value gives; anything empty gives the standard one. -/
def layoutOf (v : Value) : Result String :=
  match v with
  | .text s =>
    if s = "" then .ok LineLayout.standard
    else if LineLayout.hasPlace s then .ok s
    else .error (.misuse .badValue)
  | v => if v.truthy then .error (.misuse .wrongType) else .ok LineLayout.standard

/-- Adds a handler for the file that a value names, if it names one. -/
def addFile (r : Registry) (name layout : String) (file : Value) : Result Registry :=
  match file with
  | .text path => do
    if path = "" then return r
    let found ← r.fileAt path
    let ready := r.change name fun l => { l with handlers := l.handlers ++ [⟨.file found, layout⟩] }
    return ready.append found ""
  | file => if file.truthy then .error (.misuse .wrongType) else .ok r

/-- Notes that a logger was handed out under a name. -/
def note (r : Registry) (name : Value) : Result Registry := do
  let name ← name.asKey
  return if name.isAmong r.known then r else { r with known := r.known ++ [name] }

/-- Sets a logger up with a level, one console handler and perhaps one for a file. What was
changed before something is refused stays changed. -/
def setUp (r : Registry) (name level layout file : Value) : Registry × Result String :=
  match nameOf name with
  | .error e => (r, .error e)
  | .ok path =>
    let r := r.enlist path
    match Level.ofValue level with
    | .error e => (r, .error (.misuse e))
    | .ok level =>
      let bare := r.change path fun l => { l with level, handlers := [] }
      match layoutOf layout with
      | .error e => (bare, .error e)
      | .ok layout =>
        let heard := bare.change path fun l => { l with handlers := [⟨.console, layout⟩] }
        match heard.addFile path layout file with
        | .error e => (heard, .error e)
        | .ok ready =>
          match ready.note name with
          | .error e => (ready, .error e)
          | .ok noted => (noted, .ok path)

/-- Hands a logger out by name. Names below the library's logger are only noted; others are set
up first if they are new. -/
def handOut (r : Registry) (name : Value) : Registry × Result String :=
  if !name.isKey then (r, .error (.misuse .wrongType))
  else if name.isAmong r.known then (r, nameOf name)
  else
    match name with
    | .text s =>
      if (packageLogger ++ ".").toList.isPrefixOf s.toList then
        ({ r.enlist s with known := r.known ++ [name] }, .ok s)
      else r.setUp name (.text "WARNING") .null .null
    | .bytes _ => (r, .error (.misuse .wrongType))
    | _ => (r, .error (.misuse .noMember))

/-! ## Logging -/

/-- Writes the line of a message through one handler; console text is handed back. -/
def write (e : LogEntry) (state : Registry × String) (h : Handler) : Registry × String :=
  match LineLayout.line? h.layout e with
  | none => state
  | some line =>
    match h.destination with
    | .console => (state.1, state.2 ++ line)
    | .file path => (state.1.append path line, state.2)

/-- The handlers of a logger and of all above it. -/
def handlersOf (r : Registry) (name : String) : List Handler :=
  (r.lineage name).flatMap fun n => (r.logger n).handlers

/-- Logs a message, with the text of the present time; the second part is what reaches the
console. -/
def log (r : Registry) (name : String) (level : Level) (message : Value) (time : String) :
    Registry × String :=
  if r.lets name level then
    (r.handlersOf name).foldl (write ⟨shownName name, level, message, time⟩) (r, "")
  else (r, "")

end Registry

/-! ## Notices -/

def Reporter.loggerName : Reporter → String
  | .compiler => "omsearch.query.compiler"
  | .decoder => "omsearch.query.decoder"
  | .search => "omsearch.query.search"
  | .transport => "omsearch.transport"

def Severity.level : Severity → Level
  | .debug => .debug
  | .warning => .warning

def Registry.shown (r : Registry) (notices : List Notice) : List Notice :=
  notices.filter fun n => r.lets n.reporter.loggerName n.severity.level

end TypedQuery
