import TypedQuery.Calendar.DateTime
import TypedQuery.Number.Shortest
import TypedQuery.Number.Reader

/-!
Dates and times as text: `2020-01-02T03:04:05.000006+07:00`. Printing drops zero microseconds and
the seconds of an offset. Reading also takes dates without dashes, dates by week, times cut after
any part, any one character between date and time, and a comma for the point.
-/
set_option autoImplicit false

namespace TypedQuery

/-! ## Printing -/

/-- A natural with at least `width` digits. -/
def padded (width n : Nat) : List Char :=
  let figures := decimalDigits n
  List.replicate (width - figures.length) '0' ++ figures

/-- A day, parts joined by dashes. -/
def Date.isoChars (d : Date) : List Char :=
  padded 4 d.year ++ '-' :: padded 2 d.month ++ '-' :: padded 2 d.day

def Date.isoText (d : Date) : String := String.ofList d.isoChars

namespace DateTime

/-- Microseconds after the point, if there are any. -/
def microChars (micro : Nat) : List Char := if micro = 0 then [] else '.' :: padded 6 micro

/-- An offset: sign, hours and minutes, and what is left of it only if it is not zero. -/
def offsetChars (offset : Int) : List Char :=
  let size := offset.natAbs
  let seconds := size / microsPerSecond
  let micro := size % microsPerSecond
  let sign := if offset < 0 then '-' else '+'
  let tail :=
    if seconds % 60 = 0 ∧ micro = 0 then []
    else ':' :: padded 2 (seconds % 60) ++ microChars micro
  sign :: padded 2 (seconds / 3600) ++ ':' :: padded 2 (seconds / 60 % 60) ++ tail

/-- A point in time with a chosen character between day and time. -/
def isoChars (t : DateTime) (separator : Char) : List Char :=
  t.date.isoChars ++ separator :: padded 2 t.hour ++ ':' :: padded 2 t.minute
    ++ ':' :: padded 2 t.second ++ microChars t.microsecond
    ++ (t.offset.map offsetChars).getD []

def isoText (t : DateTime) : String := String.ofList (t.isoChars 'T')

/-- A point in time as text for people, with a space in the middle. -/
def spacedText (t : DateTime) : String := String.ofList (t.isoChars ' ')

end DateTime

/-! ## Reading -/

namespace IsoReader

/-- Reads exactly `count` digits, and gives the number with the rest. -/
def digits? (count : Nat) (cs : List Char) : Option (Nat × List Char) :=
  let figures := cs.take count
  if figures.length = count ∧ figures.all Char.isDigit then
    some (digitsValue figures, cs.drop count)
  else none

/-- Characters before the one that separates date and time, found from the shape of the date.
A week date has a day or not: after `YYYY-Www` a dash and a digit two further on is taken for a
separator, and without dashes the count of digits decides. -/
def dateLength (cs : List Char) : Nat :=
  if cs.length = 7 then 7
  else if cs[4]? = some '-' then
    if cs[5]? = some 'W' then
      if cs[8]? = some '-' ∧ ¬ (cs[10]?.map Char.isDigit).getD false then 10 else 8
    else 10
  else if cs[4]? = some 'W' then
    let last := 7 + ((cs.drop 7).takeWhile Char.isDigit).length
    if last < 9 then last else if last % 2 = 0 then 7 else 8
  else 8

/-- Reads a date, which has to fill the characters given. -/
def date? (cs : List Char) : Option Date := do
  let (year, rest) ← digits? 4 cs
  let dashed := rest.head? = some '-'
  let rest := if dashed then rest.drop 1 else rest
  let skipDash (cs : List Char) : Option (List Char) :=
    if !dashed then some cs else if cs.head? = some '-' then some (cs.drop 1) else none
  if rest.head? = some 'W' then
    let (week, rest) ← digits? 2 (rest.drop 1)
    if rest.isEmpty then Date.ofWeek? year week 1
    else
      let (day, _) ← digits? 1 (← skipDash rest)
      Date.ofWeek? year week day
  else
    let (month, rest) ← digits? 2 rest
    let (day, _) ← digits? 2 (← skipDash rest)
    Date.ofParts? year month day

/-- A time read: its parts, and whether it ran to the end of the text it was cut from. -/
structure Clock where
  hour : Nat := 0
  minute : Nat := 0
  second : Nat := 0
  micro : Nat := 0
  /-- Nothing follows, neither a stray character nor an offset. -/
  ended : Bool := true

/-- Is this the end of a text, or the character with code zero that ends one? -/
def endsText (cs : List Char) : Bool :=
  match cs with
  | [] => true
  | c :: _ => c.toNat = 0

/-- Reads the places after the point, at most six of which count. `stop` is the number of
characters before the offset. -/
def fraction? (clock : Clock) (stop : Nat) (cs : List Char) : Option Clock := do
  let count := min stop 6
  let (n, rest) ← digits? count cs
  let rest := rest.dropWhile Char.isDigit
  return { clock with micro := n * Nat.pow 10 (6 - count), ended := endsText rest }

/-- Where the parts of a time are kept: hour, minute, second. -/
def Clock.put (clock : Clock) : Nat → Nat → Clock
  | 0, n => { clock with hour := n }
  | 1, n => { clock with minute := n }
  | _, n => { clock with second := n }

/-- Reads parts `part`, `part + 1`, …, `count` of them at most, of a time. `stop` counts the
characters before the offset and `cs` all that are left. The parts have colons between them if
the first has one after it. One character may be left over before the offset. -/
def parts? (colons : Bool) (clock : Clock) : Nat → Nat → Nat → List Char → Option Clock
  | 0, _, stop, cs => fraction? clock stop cs
  | count + 1, part, stop, cs => do
    let (n, rest) ← digits? 2 cs
    let clock := clock.put part n
    let next := rest.head?
    let colons := if part = 0 then next = some ':' else colons
    if stop < 4 then
      return { clock with ended := endsText rest }
    else if colons ∧ next = some ':' then
      parts? colons clock count (part + 1) (stop - 3) (rest.drop 1)
    else if next = some '.' ∨ next = some ',' then fraction? clock (stop - 3) (rest.drop 1)
    else if !colons then parts? colons clock count (part + 1) (stop - 2) rest
    else none

/-- Reads a time that ends before the `stop`th character of a text. -/
def clock? (stop : Nat) (cs : List Char) : Option Clock := parts? false {} 3 0 stop cs

def offsetStart (cs : List Char) : Nat :=
  (cs.takeWhile fun c => c ≠ '+' && c ≠ '-' && c ≠ 'Z').length

/-- Reads an offset in microseconds. An offset of no whole seconds is universal time. -/
def offset? (negative : Bool) (cs : List Char) : Option Int := do
  let clock ← clock? cs.length cs
  if !clock.ended then none
  let seconds := (clock.hour * 60 + clock.minute) * 60 + clock.second
  let size : Int := if seconds = 0 then 0 else (seconds * microsPerSecond + clock.micro : Nat)
  return if negative then -size else size

def time? (cs : List Char) : Option (Nat × Option Int) := do
  let start := offsetStart cs
  let clock ← clock? start cs
  let time? := DateTime.timeOfDay? clock.hour clock.minute clock.second clock.micro
  match cs.drop start with
  | [] => if clock.ended then return (← time?, none) else none
  | sign :: rest =>
    if sign = 'Z' then
      if endsText rest then return (← time?, some 0) else none
    else
      let offset ← offset? (sign = '-') rest
      return (← time?, some offset)

end IsoReader

/-- Characters, each in as many places as its UTF-8 form has bytes. -/
def IsoReader.inPlaces (cs : List Char) : List Char :=
  cs.flatMap fun c => List.replicate c.utf8Size c

/-- Reads a point in time; a date alone is its midnight. Lengths within the text count bytes. -/
def DateTime.ofIso? (s : String) : Option DateTime := do
  if s.length < 7 then none
  let cs := IsoReader.inPlaces s.toList
  let length := IsoReader.dateLength cs
  let date ← IsoReader.date? (cs.take length)
  match cs.drop length with
  | [] => DateTime.ofParts? date 0 none
  | separator :: rest =>
    let (time, offset) ← IsoReader.time? (rest.drop (separator.utf8Size - 1))
    DateTime.ofParts? date time offset

end TypedQuery
