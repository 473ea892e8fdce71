/-!
Paths of documents. A path leads from the working directory, or from the top if it begins with a
slash; two slashes at its beginning are another beginning than one. Empty steps and steps that
stay where they are do not count.
-/
set_option autoImplicit false

namespace TypedQuery

/-- A path: the slashes that it begins with, and its steps. -/
structure Path where
  lead : String
  steps : List String
  deriving DecidableEq, Repr

namespace Path

/-- The beginning of a path with this many slashes in front. -/
def leadOf : Nat → String
  | 0 => ""
  | 2 => "//"
  | _ => "/"

def ofText (s : String) : Path where
  lead := leadOf (s.toList.takeWhile (· = '/')).length
  steps := (s.splitOn "/").filter fun step => step ≠ "" ∧ step ≠ "."

def text (p : Path) : String :=
  if p.lead = "" ∧ p.steps = [] then "." else p.lead ++ String.intercalate "/" p.steps

/-- The most bytes that the name of a document may have. -/
def longestName : Nat := 255

/-- The number of bytes that no path as a whole reaches. -/
def longestText : Nat := 4096

def isLongName (name : String) : Bool := longestName < name.utf8ByteSize

/-- How many steps lead up and which steps then lead down, if each step back takes away the one
before it. -/
def collapsed (p : Path) : Nat × List String :=
  p.steps.foldl (fun (up, down) step =>
    if step ≠ ".." then (up, down ++ [step])
    else if down = [] then (up + 1, [])
    else (up, down.dropLast)) (0, [])

end Path

end TypedQuery
