/-!
Days of the proleptic calendar of the years 1 to 9999, and their numbers: day 1 is the first of
January of year 1. A year is found from a day number by an estimate that is off by at most one.
-/
set_option autoImplicit false

namespace TypedQuery

/-- Every fourth year, but of the full centuries only every fourth. -/
def isLeapYear (year : Nat) : Bool := year % 4 = 0 && (year % 100 ≠ 0 || year % 400 = 0)

/-- Days of a month; zero for no month. -/
def daysInMonth (year month : Nat) : Nat :=
  match month with
  | 1 | 3 | 5 | 7 | 8 | 10 | 12 => 31
  | 4 | 6 | 9 | 11 => 30
  | 2 => if isLeapYear year then 29 else 28
  | _ => 0

def daysBeforeYear (year : Nat) : Nat :=
  let past := year - 1
  past * 365 + past / 4 - past / 100 + past / 400

/-- Days of a year before the first day of a month. -/
def daysBeforeMonth (year month : Nat) : Nat :=
  ((List.range (month - 1)).map fun i => daysInMonth year (i + 1)).foldl Nat.add 0

def isCalendarDay (year month day : Nat) : Bool :=
  1 ≤ year && year ≤ 9999 && 1 ≤ month && month ≤ 12 && 1 ≤ day && day ≤ daysInMonth year month

structure Date where
  year : Nat
  month : Nat
  day : Nat
  valid : isCalendarDay year month day = true
  deriving DecidableEq, Repr

namespace Date

/-- The day with these parts, if there is one. -/
def ofParts? (year month day : Nat) : Option Date :=
  if h : isCalendarDay year month day = true then some ⟨year, month, day, h⟩ else none

def number (d : Date) : Nat := daysBeforeYear d.year + daysBeforeMonth d.year d.month + d.day

/-- The year that holds the day with a number. -/
def yearOfNumber (number : Nat) : Nat :=
  let guess := (number - 1) * 400 / 146097 + 1
  if number ≤ daysBeforeYear guess then guess - 1
  else if daysBeforeYear (guess + 1) < number then guess + 1
  else guess

/-- The month and day of the `n`th day after the start of a month, looking at `count` months. -/
def monthAndDay (year : Nat) : Nat → Nat → Nat → Nat × Nat
  | 0, month, n => (month, n)
  | count + 1, month, n =>
    if n ≤ daysInMonth year month then (month, n)
    else monthAndDay year count (month + 1) (n - daysInMonth year month)

/-- The day with a number, if it is in the calendar. -/
def ofNumber? (number : Nat) : Option Date :=
  if number = 0 then none
  else
    let year := yearOfNumber number
    let (month, day) := monthAndDay year 12 1 (number - daysBeforeYear year)
    ofParts? year month day

/-- The number of the day on which instants are counted as zero: the first of January 1970. -/
def epochNumber : Nat := 719163

def weekday (number : Nat) : Nat := (number + 6) % 7

/-- The number of the Monday of the first week of a year: the week that holds its first
Thursday. -/
def firstMonday (year : Nat) : Nat :=
  let first := daysBeforeYear year + 1
  let monday := first - weekday first
  if 3 < weekday first then monday + 7 else monday

/-- Does the year have a fifty-third week? It starts on a Thursday, or on a Wednesday and is a
leap year. -/
def hasLongWeeks (year : Nat) : Bool :=
  let start := weekday (daysBeforeYear year + 1)
  start = 3 || (start = 2 && isLeapYear year)

/-- The day of a week of a year; weeks count from 1 and Monday is day 1. -/
def ofWeek? (year week day : Nat) : Option Date :=
  if year = 0 || week = 0 || 53 < week || (week = 53 && !hasLongWeeks year)
      || day = 0 || 7 < day then none
  else ofNumber? (firstMonday year + 7 * (week - 1) + (day - 1))

end Date

end TypedQuery
