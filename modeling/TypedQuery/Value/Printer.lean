import TypedQuery.Value.Basic
import TypedQuery.Calendar.Iso
import TypedQuery.Text.Quoted

/-!
Values as text. The literal text shows a value's type: texts and bytes are quoted, sequences are
bracketed, dates show their parts. The display text is the same, but for texts, which stand as
they are, and dates, which are written the usual way. A value with an integer of too many digits
inside has neither.
-/
set_option autoImplicit false

namespace TypedQuery

def joinTexts (separator : String) : List String → String
  | [] => ""
  | [s] => s
  | s :: t :: rest => s ++ separator ++ joinTexts separator (t :: rest)

def natText (n : Nat) : String := String.ofList (decimalDigits n)

def Date.literal (d : Date) : String :=
  "datetime.date(" ++ joinTexts ", " [natText d.year, natText d.month, natText d.day] ++ ")"

namespace DateTime

/-- The literal text of a span of microseconds, in days, seconds and microseconds. -/
def spanLiteral (micros : Int) : String :=
  let days := micros.fdiv microsPerDay
  let rest := (micros.fmod microsPerDay).toNat
  let seconds := rest / microsPerSecond
  let micro := rest % microsPerSecond
  let parts :=
    (if days = 0 then [] else ["days=" ++ intText days])
      ++ (if seconds = 0 then [] else ["seconds=" ++ natText seconds])
      ++ (if micro = 0 then [] else ["microseconds=" ++ natText micro])
  "datetime.timedelta(" ++ joinTexts ", " parts ++ ")"

def offsetLiteral (offset : Int) : String :=
  if offset = 0 then "datetime.timezone.utc"
  else "datetime.timezone(" ++ spanLiteral offset ++ ")"

/-- The literal text of a point in time; microseconds and then seconds are left out if zero. -/
def literal (t : DateTime) : String :=
  let clock :=
    if t.microsecond ≠ 0 then [t.second, t.microsecond]
    else if t.second ≠ 0 then [t.second]
    else []
  let parts := [t.date.year, t.date.month, t.date.day, t.hour, t.minute] ++ clock
  let zone :=
    match t.offset with
    | none => ""
    | some o => ", tzinfo=" ++ offsetLiteral o
  "datetime.datetime(" ++ joinTexts ", " (parts.map natText) ++ zone ++ ")"

end DateTime

namespace Value

mutual

def literal? : Value → Option String
  | .null => some "None"
  | .bool b => some (if b then "True" else "False")
  | .int n => intText? n
  | .double x => some x.text
  | .text s => some (quotedText s)
  | .bytes b => some (quotedBytes b)
  | .list items => do return "[" ++ joinTexts ", " (← literals? items) ++ "]"
  | .tuple items =>
    match items with
    | [v] => do return "(" ++ (← literal? v) ++ ",)"
    | items => do return "(" ++ joinTexts ", " (← literals? items) ++ ")"
  | .map entries => do return "\x7b" ++ joinTexts ", " (← entryLiterals? entries) ++ "\x7d"
  | .date d => some d.literal
  | .dateTime t => some t.literal

def literals? : List Value → Option (List String)
  | [] => some []
  | v :: rest => do return (← literal? v) :: (← literals? rest)

/-- The literal texts of the entries of a table. -/
def entryLiterals? : List (Value × Value) → Option (List String)
  | [] => some []
  | (k, v) :: rest => do return ((← literal? k) ++ ": " ++ (← literal? v)) :: (← entryLiterals? rest)

end

def display? : Value → Option String
  | .text s => some s
  | .date d => some d.isoText
  | .dateTime t => some t.spacedText
  | v => v.literal?

end Value

end TypedQuery
