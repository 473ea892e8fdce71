import TypedQuery.Document.Sort
import TypedQuery.Calendar.DateTime

/-!
Days and points in time as a document writes them: year, month and day with dashes between, then
perhaps a time of day with colons between, a fraction of a second and an offset.
-/
set_option autoImplicit false

namespace TypedQuery

namespace Document

/-- A time of day as it is written, with an offset in minutes if there is one. -/
structure TimeText where
  hour : Nat
  minute : Nat
  second : Nat
  /-- The digits of the fraction of the second. -/
  fraction : List Char
  offset : Option Int

/-- A day as it is written, with a time of day if there is one. -/
structure InstantText where
  year : Nat
  month : Nat
  day : Nat
  /-- Are month and day written with two digits? -/
  isFull : Bool
  time : Option TimeText

/-- At least `least` and at most `most` digits, as many as there are, with what follows. -/
def takeDigits (least most : Nat) (cs : List Char) : Option (List Char × List Char) :=
  let digits := (cs.take most).takeWhile Char.isDigit
  if digits.length < least then none else some (digits, cs.drop digits.length)

/-- What follows a character, if it comes first. -/
def after? (c : Char) (cs : List Char) : Option (List Char) :=
  match cs with
  | first :: rest => if first = c then some rest else none
  | [] => none

/-- An offset in minutes, after spaces; nothing else follows. -/
def readOffset? (cs : List Char) : Option (Option Int) :=
  if cs.isEmpty then some none
  else
    match cs.dropWhile isGap with
    | ['Z'] => some (some 0)
    | sign :: rest => do
      if sign ≠ '+' && sign ≠ '-' then none
      let (hours, rest) ← takeDigits 1 2 rest
      let minutes ←
        match rest with
        | [] => some []
        | rest => do
          let (minutes, rest) ← takeDigits 2 2 (← after? ':' rest)
          if rest.isEmpty then some minutes else none
      let total : Int := 60 * digitsValue hours + digitsValue minutes
      return some (if sign = '-' then -total else total)
    | [] => none

/-- A time of day; nothing else follows. -/
def readTime? (cs : List Char) : Option TimeText := do
  let (hour, rest) ← takeDigits 1 2 cs
  let (minute, rest) ← takeDigits 2 2 (← after? ':' rest)
  let (second, rest) ← takeDigits 2 2 (← after? ':' rest)
  let (fraction, rest) :=
    match rest with
    | '.' :: tail => (tail.takeWhile Char.isDigit, tail.dropWhile Char.isDigit)
    | rest => ([], rest)
  return ⟨digitsValue hour, digitsValue minute, digitsValue second, fraction, ← readOffset? rest⟩

/-- A day, perhaps with a time of day after a letter or after gaps. -/
def readInstant? (cs : List Char) : Option InstantText := do
  let (year, rest) ← takeDigits 4 4 cs
  let (month, rest) ← takeDigits 1 2 (← after? '-' rest)
  let (day, rest) ← takeDigits 1 2 (← after? '-' rest)
  let time ←
    match rest with
    | [] => some none
    | mark :: tail =>
      if mark = 'T' || mark = 't' then (readTime? tail).map some
      else if isGap mark then (readTime? (tail.dropWhile isGap)).map some
      else none
  return ⟨digitsValue year, digitsValue month, digitsValue day,
    month.length = 2 && day.length = 2, time⟩

/-- Does a plain scalar look like a day or a point in time? A day alone has to be written in
full. -/
def looksLikeInstant (cs : List Char) : Bool :=
  match readInstant? cs with
  | some i => i.isFull || i.time.isSome
  | none => false

/-- The microseconds that the digits of a fraction of a second write, further digits left out. -/
def microsOf (fraction : List Char) : Nat :=
  let digits := fraction.take 6
  digitsValue digits * Nat.pow 10 (6 - digits.length)

/-- The day or point in time that a text writes, if the calendar has it. -/
def InstantText.value? (i : InstantText) : Option Value := do
  let date ← Date.ofParts? i.year i.month i.day
  match i.time with
  | none => return .date date
  | some t =>
    let time ← DateTime.timeOfDay? t.hour t.minute t.second (microsOf t.fraction)
    let offset := t.offset.map fun minutes : Int => minutes * 60 * microsPerSecond
    return .dateTime (← DateTime.ofParts? date time offset)

end Document

end TypedQuery
