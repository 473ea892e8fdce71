import TypedQuery.Calendar.Date

/-!
Points in time: a day, a time of day in microseconds and, unless the time is a bare wall time, an
offset east of universal time. All arithmetic is on whole microseconds since 1970.
-/
set_option autoImplicit false

namespace TypedQuery

def microsPerSecond : Nat := 1000000

def microsPerDay : Nat := 86400 * microsPerSecond

/-- A day and a time on it. The offset, in microseconds, is less than a day either way. -/
structure DateTime where
  date : Date
  /-- Microseconds since midnight. -/
  time : Nat
  offset : Option Int
  time_lt : time < microsPerDay
  offset_lt : ∀ o, offset = some o → o.natAbs < microsPerDay
  deriving Repr

namespace DateTime

/-- The point with these parts, if the time is one of the day and the offset within a day. -/
def ofParts? (date : Date) (time : Nat) (offset : Option Int) : Option DateTime :=
  if ht : time < microsPerDay then
    match offset with
    | none => some ⟨date, time, none, ht, fun _ h => nomatch h⟩
    | some o =>
      if ho : o.natAbs < microsPerDay then
        some ⟨date, time, some o, ht, fun _ h => by cases h; exact ho⟩
      else none
  else none

/-- Microseconds since midnight of an hour, minute, second and microsecond, if those are in
range. -/
def timeOfDay? (hour minute second micro : Nat) : Option Nat :=
  if hour < 24 ∧ minute < 60 ∧ second < 60 ∧ micro < microsPerSecond then
    some (((hour * 60 + minute) * 60 + second) * microsPerSecond + micro)
  else none

def hour (t : DateTime) : Nat := t.time / (3600 * microsPerSecond)

def minute (t : DateTime) : Nat := t.time / (60 * microsPerSecond) % 60

def second (t : DateTime) : Nat := t.time / microsPerSecond % 60

def microsecond (t : DateTime) : Nat := t.time % microsPerSecond

/-- Microseconds since the start of 1970; a bare wall time counts as universal time. -/
def sinceEpoch (t : DateTime) : Int :=
  ((t.date.number : Int) - Date.epochNumber) * microsPerDay + t.time - t.offset.getD 0

/-- The point in universal time that lies some microseconds after the start of 1970, if the
calendar reaches it. -/
def ofEpoch? (micros : Int) : Option DateTime :=
  let day := micros.fdiv microsPerDay + Date.epochNumber
  if day < 1 then none
  else do
    let date ← Date.ofNumber? day.toNat
    ofParts? date (micros.fmod microsPerDay).toNat (some 0)

def sameParts (a b : DateTime) : Bool :=
  a.date = b.date && a.time = b.time && a.offset = b.offset

/-- Equal points: two bare wall times, or the same instant; a bare one never equals one with an
offset. -/
def same (a b : DateTime) : Bool :=
  a.offset.isSome = b.offset.isSome && a.sinceEpoch = b.sinceEpoch

end DateTime

end TypedQuery
