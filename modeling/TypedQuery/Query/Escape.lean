import TypedQuery.Text.Blank

/-!
Escaping caller text in queries: a backslash goes before every punctuation mark of the query
language, and in tags also before every blank. Taking the backslashes away again gives the text
back.
-/
set_option autoImplicit false

namespace TypedQuery

def queryPunctuation : List Char :=
  [',', '.', '<', '>', '\x7b', '\x7d', '[', ']', '\x22', '\x27', ':', ';', '!', '@', '#', '$', '%',
    '^', '&', '*', '(', ')', '-', '+', '=', '~', '|', '/', '\\']

/-- Has the character a meaning in the query language? -/
def isQueryPunctuation (c : Char) : Bool := queryPunctuation.contains c

/-- Characters that end a tag unless escaped. -/
def breaksTag (c : Char) : Bool := isQueryPunctuation c || isBlank c

def escapeChars (special : Char → Bool) (cs : List Char) : List Char :=
  cs.flatMap fun c => if special c then ['\\', c] else [c]

def escapeTag (s : String) : String := String.ofList (escapeChars breaksTag s.toList)

/-- A text with punctuation escaped; the blanks between its words stay. -/
def escapeText (s : String) : String := String.ofList (escapeChars isQueryPunctuation s.toList)

end TypedQuery
