import TypedQuery.Condition.Basic

/-!
Dates in conditions are seconds since the start of 1970: whole ones as integers, others as the
nearest double. They may be given as points in time, days, texts or plain numbers.
-/
set_option autoImplicit false

namespace TypedQuery

/-- Seconds from microseconds: the nearest double, or the integer if that double is whole. -/
def secondsOf (micros : Int) : Numeral :=
  let x := Double.ofQuotient micros microsPerSecond
  if x.isWhole then .int x.truncate else .double x

/-- A text with every capital Z written as the offset of universal time. -/
def withNumericZone (s : String) : String :=
  String.ofList (s.toList.flatMap fun c => if c = 'Z' then "+00:00".toList else [c])

def toEpoch (v : Value) : Except InputFault Numeral :=
  match v with
  | .bool b => .error (.truthValueAsDate b)
  | .int n => .ok (.int n)
  | .double x => .ok (.double x)
  | .text s =>
    match DateTime.ofIso? (withNumericZone s) with
    | some t => .ok (secondsOf t.sinceEpoch)
    | none => .error (.badDateText s)
  | .dateTime t => .ok (secondsOf t.sinceEpoch)
  | .date d => .ok (.int (((d.number : Int) - Date.epochNumber) * 86400))
  | v => .error (.notDate v.typeName)

end TypedQuery
