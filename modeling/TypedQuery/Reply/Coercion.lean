import TypedQuery.Schema
import TypedQuery.Settings.Basic

/-!
Raw values of a reply, read by the type of their field. A store answers in bytes or in texts; both
are read the same way. Only vectors are passed on as they are.
-/
set_option autoImplicit false

namespace TypedQuery

/-- The text of a raw value: bytes are decoded, anything else is displayed. -/
def rawText (v : Value) : Result String :=
  match v with
  | .bytes b =>
    match String.fromUTF8? b with
    | some s => .ok s
    | none => .error (.reply .notText)
  | v => v.display

/-- A number of a column: a known word, or a decimal number. -/
def readNumber (words : Sentinels) (column : String) (v : Value) : Result Double := do
  let token := trimmed (← rawText v)
  match words.lookup (lowerCase token) with
  | some x => return x
  | none =>
    match readDouble? token with
    | some x => return x
    | none => throw (.reply (.notNumber column token))

/-- A truth value: one or zero, or its word in any case. -/
def readBoolean (column : String) (v : Value) : Result Bool := do
  let token := lowerCase (trimmed (← rawText v))
  if token = "1" ∨ token = "true" then return true
  if token = "0" ∨ token = "false" then return false
  throw (.reply (.notBoolean column token))

/-- The parts of a text between separators, which do not overlap and are found from the left. The
first argument holds the characters of the part so far, last first. -/
def splitChars (separator : List Char) (part : List Char) : List Char → List (List Char)
  | [] => [part.reverse]
  | c :: rest =>
    if _h : separator ≠ [] ∧ separator.isPrefixOf (c :: rest) then
      part.reverse :: splitChars separator [] ((c :: rest).drop separator.length)
    else splitChars separator (c :: part) rest
termination_by cs => cs.length
decreasing_by
  · have := List.length_pos_iff.2 _h.1
    simp only [List.length_drop, List.length_cons]
    omega
  · simp

def splitText (separator s : String) : List String :=
  (splitChars separator.toList [] s.toList).map String.ofList

/-- A point: longitude and latitude with a comma between them. -/
def readPoint (column : String) (v : Value) : Result (Double × Double) := do
  let text ← rawText v
  match (splitText "," text).map readDouble? with
  | [some longitude, some latitude] => return (longitude, latitude)
  | _ => throw (.reply (.notPoint column text))

/-- The microseconds nearest to a finite number of seconds. Only the part after the point is
rounded, first to a double and then to a whole number. -/
def microsOf (x : Double) : Int :=
  let (negative, num, den) := x.fractionalPart
  let micros := (Double.ofFraction negative (num * microsPerSecond) den).roundToInt
  x.truncate * microsPerSecond + micros

/-- A point in time: a finite number of seconds that the calendar reaches. -/
def readDate (words : Sentinels) (column : String) (v : Value) : Result DateTime := do
  let x ← readNumber words column v
  if !x.isFinite then throw (.reply (.notDate column x.text))
  match DateTime.ofEpoch? (microsOf x) with
  | some t => return t
  | none => throw (.reply (.dateOutside column x.text))

/-- The tags of a field with several of them; empty ones are dropped. Without a separator the
tags are words. -/
def readTags (separator : Value) (text : String) : Result (List String) :=
  if text = "" then .ok []
  else
    match separator with
    | .null => .ok ((wordsOf text.toList []).map String.ofList)
    | .text s =>
      if s = "" then .error (.misuse .badValue)
      else .ok ((splitText s text).filter (· ≠ ""))
    | _ => .error (.misuse .wrongType)

/-- A raw value read by the type of its field. -/
def coerce (words : Sentinels) (f : Field) (v : Value) : Result Value :=
  let column := f.name.text
  match f.type with
  | .text => do return .text (← rawText v)
  | .tag => do
    let text ← rawText v
    if f.multi.truthy then return .list ((← readTags f.separator text).map .text)
    else return .text text
  | .number => do return .double (← readNumber words column v)
  | .boolean => do return .bool (← readBoolean column v)
  | .geo => do
    let (longitude, latitude) ← readPoint column v
    return .tuple [.double longitude, .double latitude]
  | .date => do return .dateTime (← readDate words column v)
  | .vector => .ok v

end TypedQuery
