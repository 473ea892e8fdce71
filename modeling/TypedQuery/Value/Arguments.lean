import TypedQuery.Value.Access

/-!
Named arguments: a call with an unknown name, or without one that is required, is a misuse.
-/
set_option autoImplicit false

namespace TypedQuery

/-- Arguments by name, in the order given. -/
abbrev Arguments := List (String × Value)

namespace Arguments

def check (given : Arguments) (required optional : List String) : Result Unit :=
  if required.all (fun name => given.any (·.1 == name))
      && given.all (fun e => required.contains e.1 || optional.contains e.1) then .ok ()
  else .error (.misuse .wrongType)

/-- Arguments of which some are given by their position among `names`, and the others by name. No
argument is given twice. -/
def bind (names : List String) (positional : List Value) (named : Arguments) :
    Result Arguments :=
  let placed := names.zip positional
  if names.length < positional.length || named.any fun e => placed.any (·.1 == e.1) then
    .error (.misuse .wrongType)
  else .ok (placed ++ named)

/-- The argument of a name, or what stands for it when it is not given. -/
def get (given : Arguments) (name : String) (absent : Value) : Value :=
  (given.lookup name).getD absent

/-- The arguments that a table holds; its keys have to be texts. -/
def ofEntries : List (Value × Value) → Result Arguments
  | [] => .ok []
  | (.text name, v) :: rest => do return (name, v) :: (← ofEntries rest)
  | _ => .error (.misuse .wrongType)

end Arguments

end TypedQuery
