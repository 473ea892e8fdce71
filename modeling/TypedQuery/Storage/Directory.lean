import TypedQuery.Value.Access
import TypedQuery.Storage.Path

/-!
A working directory with documents in it and in the directories below. A directory is there if a
document is somewhere below it. Nothing is known about what lies outside, except that there are
directories above.
-/
set_option autoImplicit false

namespace TypedQuery

/-- Documents with their paths, none of them twice. -/
structure Directory where
  documents : List (List String × String)

inductive Place
  | nothing
  | directory (steps : List String)
  | document (text : String)
  /-- A directory above the working directory. -/
  | above
  /-- A document, where a directory would be needed. -/
  | blocked
  /-- A name that no document can have. -/
  | longName

namespace Directory

/-- The steps of a document's path from the working directory. -/
def stepsOf (path : String) : List String := (Path.ofText path).collapsed.2

/-- A directory with a document added, or its text replaced. -/
def add (d : Directory) (path text : String) : Directory where
  documents := d.documents.filter (fun e => e.1 ≠ stepsOf path) ++ [(stepsOf path, text)]

/-- The directory that documents build, one after the other. -/
def ofDocuments (documents : List (String × String)) : Directory :=
  documents.foldl (fun d e => d.add e.1 e.2) ⟨[]⟩

/-- What is at the end of these steps down from the working directory. -/
def lookUp (d : Directory) (steps : List String) : Place :=
  match d.documents.find? fun e => e.1 = steps with
  | some e => .document e.2
  | none =>
    if steps = [] || d.documents.any fun e => steps.isPrefixOf e.1 then .directory steps
    else .nothing

def step (d : Directory) (place : Place) (name : String) : Place :=
  match place, name with
  | .directory [], ".." => .above
  | .directory steps, ".." => .directory steps.dropLast
  | .directory steps, name => if Path.isLongName name then .longName else d.lookUp (steps ++ [name])
  | .above, ".." => .above
  | .above, name => if Path.isLongName name then .longName else .nothing
  | .document _, _ => .blocked
  | place, _ => place

def find (d : Directory) (p : Path) : Place :=
  if p.text.toList.contains '\x00' then .nothing
  else if Path.longestText ≤ p.text.utf8ByteSize then .longName
  else p.steps.foldl d.step (if p.lead = "" then .directory [] else .above)

def has (d : Directory) (p : Path) : Bool :=
  match d.find p with
  | .directory _ => true
  | .document _ => true
  | .above => true
  | _ => false

/-- The text of the document at a path, if there is anything. A directory has no text, and a name
too long to ask for is refused. -/
def read? (d : Directory) (p : Path) : Result (Option String) :=
  match d.find p with
  | .document text => .ok (some text)
  | .directory _ => .error (.storage .directory)
  | .above => .error (.storage .directory)
  | .longName => .error (.storage .longName)
  | .nothing => .ok none
  | .blocked => .ok none

end Directory

end TypedQuery
