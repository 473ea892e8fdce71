import TypedQuery.Proofs.Calendar.IsoReading
import TypedQuery.Proofs.Number.WholeNumbers

/-! # The seconds of a date, however it is written

A point in time, its printed form and, for a midnight, the day come to the same seconds. The one
exception is an offset of less than a second, which a text does not carry to the reader. -/

namespace TypedQuery
set_option autoImplicit false

/-! ## Zones in texts -/

theorem withNumericZone_plain {s : String} (plain : ∀ c ∈ s.toList, IsIsoChar c) :
    withNumericZone s = s := by
  have kept : s.toList.flatMap (fun c => if c = 'Z' then "+00:00".toList else [c]) = s.toList :=
    flatMap_plain fun c hc => if_neg (plain c hc).plain.2
  rw [withNumericZone, kept, String.ofList_toList]

theorem withNumericZone_append (s t : String) :
    withNumericZone (s ++ t) = withNumericZone s ++ withNumericZone t := by
  simp only [withNumericZone, String.toList_append, List.flatMap_append, String.ofList_append]

theorem toEpoch_text_eq_ok {s : String} {n : Numeral} :
    toEpoch (.text s) = .ok n ↔ ∃ t, DateTime.ofIso? (withNumericZone s) = some t
      ∧ secondsOf t.sinceEpoch = n := by
  simp only [toEpoch]
  cases read : DateTime.ofIso? (withNumericZone s) with
  | none => simp
  | some t => simp

/-- The letter of universal time says what its offset says. -/
theorem toEpoch_zone (s : String) (n : Numeral) :
    toEpoch (.text (s ++ "+00:00")) = .ok n ↔ toEpoch (.text (s ++ "Z")) = .ok n := by
  have numeric : withNumericZone "+00:00" = withNumericZone "Z" := by decide
  rw [toEpoch_text_eq_ok, toEpoch_text_eq_ok, withNumericZone_append, withNumericZone_append, numeric]

/-! ## Points in time and days -/

namespace DateTime

variable {t u : DateTime}

/-- The text of a point in time means the point as it is heard. -/
theorem toEpoch_isoText (t : DateTime) : toEpoch (.text t.isoText) = toEpoch (.dateTime t.heard) := by
  simp only [toEpoch, withNumericZone_plain fun c hc => t.isIsoChar hc, t.ofIso?_isoText]

theorem sinceEpoch_congr (date : t.date = u.date) (time : t.time = u.time)
    (offset : t.offset.getD 0 = u.offset.getD 0) : t.sinceEpoch = u.sinceEpoch := by
  rw [sinceEpoch, sinceEpoch, date, time, offset]

theorem toEpoch_congr (same : t.sinceEpoch = u.sinceEpoch) :
    toEpoch (.dateTime t) = toEpoch (.dateTime u) := by
  rw [toEpoch, toEpoch, same]

end DateTime

/-- The seconds of a day are those of its midnight. -/
theorem Date.toEpoch_midnight (d : Date) {t : DateTime} (date : t.date = d) (time : t.time = 0)
    (offset : t.offset = none) : toEpoch (.date d) = toEpoch (.dateTime t) := by
  have last := d.number_lt
  have zero : epochNumber = 719163 := rfl
  have short : (((d.number : Int) - epochNumber) * 86400).natAbs < 2 ^ 53 := by
    rw [zero]
    omega
  have instant : t.sinceEpoch = ((d.number : Int) - epochNumber) * 86400 * microsPerSecond := by
    rw [DateTime.sinceEpoch, date, time, offset, microsPerDay]
    push_cast
    simp [mul_assoc]
  rw [toEpoch, toEpoch, instant, secondsOf_whole short]

theorem Date.toEpoch_isoText (d : Date) {t : DateTime} (date : t.date = d) (time : t.time = 0)
    (offset : t.offset = none) : toEpoch (.text d.isoText) = toEpoch (.dateTime t) := by
  have plain : ∀ c ∈ d.isoText.toList, IsIsoChar c := by
    intro c hc
    rw [isoText, String.toList_ofList] at hc
    exact Date.isIsoChar hc
  have midnight : DateTime.ofParts? d 0 none = some t := by
    rw [← date, ← time, ← offset]
    exact t.ofParts?_parts
  simp only [toEpoch, withNumericZone_plain plain, d.ofIso?_isoText, midnight]

namespace DateTime

theorem heard_offset_of_long {t : DateTime}
    (long : ∀ o, t.offset = some o → o = 0 ∨ microsPerSecond ≤ o.natAbs) : t.heard = t := by
  obtain ⟨date, time, offset, early, near⟩ := t
  cases offset with
  | none => rfl
  | some o =>
    have kept : IsoReader.heard o = o := by
      unfold IsoReader.heard
      split
      · rename_i small
        rcases long o rfl with rfl | large
        · rfl
        · omega
      · rfl
    simp only [heard, Option.map_some, kept]

/-- Whichever way a date is written, it comes to the same seconds: a point in time and its text, if
its offset is none or at least a second; a bare wall time and the same at no offset; one instant at
two offsets; a text with an offset of zero and with the letter for it; a day, its text and its
midnight. The text of a point with a shorter offset means the wall time at no offset. -/
theorem toEpoch_agrees :
    (∀ t : DateTime, (∀ o, t.offset = some o → o = 0 ∨ microsPerSecond ≤ o.natAbs) →
        ∃ n, toEpoch (.dateTime t) = .ok n ∧ toEpoch (.text t.isoText) = .ok n)
      ∧ (∀ (t u : DateTime) (o : Int), t.offset = some o → o.natAbs < microsPerSecond →
        u.date = t.date → u.time = t.time → u.offset = some 0 →
        ∃ n, toEpoch (.dateTime u) = .ok n ∧ toEpoch (.text t.isoText) = .ok n)
      ∧ (∀ t u : DateTime, t.offset = none → u.date = t.date → u.time = t.time → u.offset = some 0 →
        toEpoch (.dateTime t) = toEpoch (.dateTime u))
      ∧ (∀ t u : DateTime, t.offset.isSome → u.offset.isSome → t.sinceEpoch = u.sinceEpoch →
        toEpoch (.dateTime t) = toEpoch (.dateTime u))
      ∧ (∀ (s : String) (n : Numeral),
        toEpoch (.text (s ++ "+00:00")) = .ok n ↔ toEpoch (.text (s ++ "Z")) = .ok n)
      ∧ ∀ (d : Date) (t : DateTime), t.date = d → t.time = 0 → t.offset = none →
        ∃ n, toEpoch (.date d) = .ok n ∧ toEpoch (.dateTime t) = .ok n
          ∧ toEpoch (.text d.isoText) = .ok n := by
  refine ⟨?_, ?_, ?_, ?_, toEpoch_zone, ?_⟩
  · intro t long
    have text := t.toEpoch_isoText
    rw [heard_offset_of_long long] at text
    exact ⟨_, rfl, text⟩
  · intro t u o offset small date time utc
    have quiet : IsoReader.heard o = 0 := if_pos small
    have instant : t.heard.sinceEpoch = u.sinceEpoch := by
      refine sinceEpoch_congr date.symm time.symm ?_
      change (t.offset.map IsoReader.heard).getD 0 = u.offset.getD 0
      rw [utc, offset, Option.map_some, quiet]
    exact ⟨_, rfl, t.toEpoch_isoText.trans (toEpoch_congr instant)⟩
  · intro t u bare date time utc
    refine toEpoch_congr (sinceEpoch_congr date.symm time.symm ?_)
    rw [bare, utc]
    rfl
  · intro t u _ _ same
    exact toEpoch_congr same
  · intro d t date time bare
    exact ⟨_, d.toEpoch_midnight date time bare, rfl, d.toEpoch_isoText date time bare⟩

/-! ## Points at the start of 2020 -/

theorem midnight_lt : 0 < microsPerDay := by decide

theorem utc_near : ∀ o, some (0 : Int) = some o → o.natAbs < microsPerDay := by
  rintro o ⟨⟩
  exact midnight_lt

theorem bare_near : ∀ o, (none : Option Int) = some o → o.natAbs < microsPerDay := by
  intro o same
  cases same

/-- The start of 2020 in universal time. -/
def newYear : DateTime where
  date := ⟨2020, 1, 1, by decide⟩
  time := 0
  offset := some 0
  time_lt := midnight_lt
  offset_lt := utc_near

/-- The same moment on a clock five and a half hours ahead. -/
def newYearEast : DateTime where
  date := newYear.date
  time := 19800 * microsPerSecond
  offset := some (19800 * microsPerSecond)
  time_lt := by decide
  offset_lt := by
    rintro o ⟨⟩
    decide

/-- The same midnight on a clock of no zone. -/
def newYearBare : DateTime where
  date := newYear.date
  time := 0
  offset := none
  time_lt := midnight_lt
  offset_lt := bare_near

/-- The same midnight on a clock half a second ahead. -/
def newYearAhead : DateTime where
  date := newYear.date
  time := 0
  offset := some 500000
  time_lt := midnight_lt
  offset_lt := by
    rintro o ⟨⟩
    decide

theorem toEpoch_agrees_newYear :
    (∃ n, toEpoch (.dateTime newYearEast) = .ok n ∧ toEpoch (.text newYearEast.isoText) = .ok n)
      ∧ (∃ n, toEpoch (.dateTime newYear) = .ok n ∧ toEpoch (.text newYearAhead.isoText) = .ok n)
      ∧ toEpoch (.dateTime newYearBare) = toEpoch (.dateTime newYear)
      ∧ toEpoch (.dateTime newYearEast) = toEpoch (.dateTime newYear)
      ∧ ∃ n, toEpoch (.date newYear.date) = .ok n ∧ toEpoch (.dateTime newYearBare) = .ok n
        ∧ toEpoch (.text newYear.date.isoText) = .ok n := by
  obtain ⟨text, brief, bare, instant, -, day⟩ := toEpoch_agrees
  refine ⟨text newYearEast ?_, brief newYearAhead newYear 500000 rfl (by decide) rfl rfl rfl,
    bare newYearBare newYear rfl rfl rfl rfl, instant newYearEast newYear rfl rfl (by decide),
    day newYear.date newYearBare rfl rfl rfl⟩
  rintro o ⟨⟩
  exact .inr (by decide)

/-- The text of a point whose offset is half a second means another instant. -/
theorem toEpoch_newYearAhead :
    toEpoch (.text newYearAhead.isoText) = .ok (.int 1577836800)
      ∧ toEpoch (.dateTime newYearAhead) ≠ .ok (.int 1577836800) := by
  have read : secondsOf newYearAhead.heard.sinceEpoch = .int 1577836800 := by decide +kernel
  have given : secondsOf newYearAhead.sinceEpoch ≠ .int 1577836800 := by decide +kernel
  constructor
  · rw [toEpoch_isoText, toEpoch, read]
  · intro same
    exact given (Except.ok.inj same)

end DateTime

end TypedQuery
