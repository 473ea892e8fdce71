import Mathlib.Algebra.Group.Nat.Defs
import TypedQuery.Calendar.DateTime

/-! # Days and their numbers

Years and months follow each other without a gap, so that the number of a day leads back to the day
and the microseconds of a point in universal time back to the point. -/

namespace TypedQuery
set_option autoImplicit false

/-! ## Months -/

variable {year month n : Nat}

theorem daysBeforeMonth_succ (year : Nat) (positive : 1 ≤ month) :
    daysBeforeMonth year (month + 1) = daysBeforeMonth year month + daysInMonth year month := by
  obtain ⟨k, rfl⟩ : ∃ k, month = k + 1 := ⟨month - 1, by omega⟩
  unfold daysBeforeMonth
  rw [Nat.add_sub_cancel, Nat.add_sub_cancel, List.range_succ, List.map_append, List.foldl_append]
  rfl

theorem daysBeforeMonth_mono (year : Nat) {first : Nat} (positive : 1 ≤ first) (le : first ≤ month) :
    daysBeforeMonth year first ≤ daysBeforeMonth year month := by
  induction le with
  | refl => exact Nat.le_refl _
  | step le ih =>
    rw [daysBeforeMonth_succ year (Nat.le_trans positive le)]
    omega

def daysInYear (year : Nat) : Nat := if isLeapYear year then 366 else 365

theorem daysBeforeMonth_last (year : Nat) : daysBeforeMonth year 13 = daysInYear year := by
  cases leap : isLeapYear year <;>
    simp [daysBeforeMonth, daysInYear, daysInMonth, List.range_succ, leap]

theorem monthAndDay_of_sum {first count day : Nat} (positive : 1 ≤ first) (le : first ≤ month)
    (near : month < first + count) (some_day : 1 ≤ day) (inside : day ≤ daysInMonth year month) :
    n + daysBeforeMonth year first = daysBeforeMonth year month + day →
      Date.monthAndDay year count first n = (month, day) := by
  induction count generalizing first n with
  | zero => omega
  | succ count ih =>
    intro sum
    have next := daysBeforeMonth_succ year positive
    rw [Date.monthAndDay]
    by_cases found : first = month
    · subst found
      have same : n = day := by omega
      rw [same, if_pos inside]
    · have later : first + 1 ≤ month := by omega
      have passed := daysBeforeMonth_mono year (Nat.le_add_left 1 first) later
      rw [if_neg (by omega)]
      exact ih (Nat.le_add_left 1 first) later (by omega) (by omega)

/-! ## Years -/

/-- A number of years by the cycles of the calendar: four centuries, a century, four years. -/
structure Cycles (past f c q y : Nat) : Prop where
  century : c < 4
  quarter : q < 25
  single : y < 4
  sum : past = 4 * (25 * (4 * f + c) + q) + y

theorem exists_cycles (past : Nat) : ∃ f c q y, Cycles past f c q y := by
  refine ⟨past / 400, past / 100 % 4, past / 4 % 25, past % 4, ?_, ?_, ?_, ?_⟩ <;> omega

namespace Cycles

variable {past f c q y : Nat}

theorem daysBefore (h : Cycles past f c q y) :
    daysBeforeYear (past + 1) = 146097 * f + 36524 * c + 1461 * q + 365 * y := by
  obtain ⟨century, quarter, single, sum⟩ := h
  have fours : past / 4 = 25 * (4 * f + c) + q := by omega
  have hundreds : past / 100 = 4 * f + c := by omega
  have cycles : past / 400 = f := by omega
  rw [daysBeforeYear, Nat.add_sub_cancel, fours, hundreds, cycles]
  omega

theorem leap (h : Cycles past f c q y) :
    isLeapYear (past + 1) = decide (y = 3 ∧ (q = 24 → c = 3)) := by
  obtain ⟨century, quarter, single, sum⟩ := h
  have fours : (past + 1) % 4 = 0 ↔ y = 3 := by omega
  have hundreds : (past + 1) % 100 = 0 ↔ y = 3 ∧ q = 24 := by omega
  have cycles : (past + 1) % 400 = 0 ↔ y = 3 ∧ q = 24 ∧ c = 3 := by omega
  rw [Bool.eq_iff_iff, isLeapYear]
  simp only [Bool.and_eq_true, Bool.or_eq_true, decide_eq_true_eq, ne_eq, fours, hundreds, cycles]
  omega

theorem daysIn (h : Cycles past f c q y) :
    daysInYear (past + 1) = if y = 3 ∧ (q = 24 → c = 3) then 366 else 365 := by
  simp only [daysInYear, h.leap, decide_eq_true_eq]

/-- The next year stands in the same four years, or it begins four years, a century or a cycle. -/
theorem next (h : Cycles past f c q y) : Cycles (past + 1) f c q (y + 1)
    ∨ (y = 3 ∧ Cycles (past + 1) f c (q + 1) 0)
    ∨ (y = 3 ∧ q = 24 ∧ Cycles (past + 1) f (c + 1) 0 0)
    ∨ (y = 3 ∧ q = 24 ∧ c = 3 ∧ Cycles (past + 1) (f + 1) 0 0 0) := by
  obtain ⟨century, quarter, single, sum⟩ := h
  by_cases more_years : y + 1 < 4
  · exact .inl ⟨century, quarter, more_years, by omega⟩
  · by_cases more_quarters : q + 1 < 25
    · exact .inr (.inl ⟨by omega, century, more_quarters, by omega, by omega⟩)
    · by_cases more_centuries : c + 1 < 4
      · exact .inr (.inr (.inl ⟨by omega, by omega, more_centuries, by omega, by omega, by omega⟩))
      · exact .inr (.inr (.inr ⟨by omega, by omega, by omega, by omega, by omega, by omega, by omega⟩))

end Cycles

theorem daysBeforeYear_succ (positive : 1 ≤ year) :
    daysBeforeYear (year + 1) = daysBeforeYear year + daysInYear year := by
  obtain ⟨past, rfl⟩ : ∃ past, year = past + 1 := ⟨year - 1, by omega⟩
  obtain ⟨f, c, q, y, cycles⟩ := exists_cycles past
  have single := cycles.single
  have quarter := cycles.quarter
  rw [cycles.daysBefore, cycles.daysIn]
  rcases cycles.next with following | ⟨_, following⟩ | ⟨_, _, following⟩ | ⟨_, _, _, following⟩ <;>
    rw [following.daysBefore]
  · have same_four := following.single
    rw [if_neg (by omega)]
    omega
  · have same_century := following.quarter
    rw [if_pos (by omega)]
    omega
  · have same_cycle := following.century
    rw [if_neg (by omega)]
    omega
  · rw [if_pos (by omega)]
    omega

theorem daysBeforeYear_mono {first : Nat} (positive : 1 ≤ first) (le : first ≤ year) :
    daysBeforeYear first ≤ daysBeforeYear year := by
  induction le with
  | refl => exact Nat.le_refl _
  | step le ih =>
    rw [daysBeforeYear_succ (Nat.le_trans positive le)]
    omega

/-- Over four centuries a year has 146097 / 400 days; a year begins less than two days before and
less than one day after the moment that these give. -/
theorem daysBeforeYear_bounds (past : Nat) :
    146097 * past ≤ 400 * daysBeforeYear (past + 1) + 591
      ∧ 400 * daysBeforeYear (past + 1) ≤ 146097 * past + 288 := by
  obtain ⟨f, c, q, y, cycles⟩ := exists_cycles past
  rw [cycles.daysBefore]
  obtain ⟨century, quarter, single, sum⟩ := cycles
  omega

theorem yearOfNumber_of_between (positive : 1 ≤ year) (after : daysBeforeYear year < n)
    (upto : n ≤ daysBeforeYear (year + 1)) : Date.yearOfNumber n = year := by
  have here := daysBeforeYear_bounds (year - 1)
  have next := daysBeforeYear_bounds year
  rw [Nat.sub_add_cancel positive] at here
  unfold Date.yearOfNumber
  dsimp only
  obtain same | before : (n - 1) * 400 / 146097 + 1 = year ∨ (n - 1) * 400 / 146097 + 1 + 1 = year := by
    omega
  · rw [same, if_neg (by omega), if_neg (by omega)]
  · have first : 1 ≤ (n - 1) * 400 / 146097 + 1 := Nat.le_add_left ..
    have passed := daysBeforeYear_mono first (Nat.le.intro before)
    rw [if_neg (by omega), before, if_pos after]

/-! ## Days -/

namespace Date

theorem parts_valid (d : Date) : 1 ≤ d.year ∧ d.year ≤ 9999 ∧ 1 ≤ d.month ∧ d.month ≤ 12 ∧ 1 ≤ d.day
    ∧ d.day ≤ daysInMonth d.year d.month := by
  have valid := d.valid
  simp only [isCalendarDay, Bool.and_eq_true, decide_eq_true_eq] at valid
  omega

theorem number_bounds (d : Date) : daysBeforeYear d.year < d.number
    ∧ d.number ≤ daysBeforeYear (d.year + 1) := by
  obtain ⟨first_year, -, first_month, last_month, first_day, last_day⟩ := d.parts_valid
  have month := daysBeforeMonth_succ d.year first_month
  have year := daysBeforeMonth_mono d.year (Nat.le_add_left 1 d.month)
    (Nat.succ_le_succ last_month)
  rw [daysBeforeMonth_last] at year
  rw [daysBeforeYear_succ first_year, number]
  omega

/-- The number of a day leads back to the day. -/
theorem ofNumber?_number (d : Date) : ofNumber? d.number = some d := by
  obtain ⟨first_year, -, first_month, last_month, first_day, last_day⟩ := d.parts_valid
  obtain ⟨after, upto⟩ := d.number_bounds
  have none : daysBeforeMonth d.year 1 = 0 := rfl
  have sum : d.number - daysBeforeYear d.year + daysBeforeMonth d.year 1
      = daysBeforeMonth d.year d.month + d.day := by
    rw [none, number]
    omega
  have found : monthAndDay d.year 12 1 (d.number - daysBeforeYear d.year) = (d.month, d.day) :=
    monthAndDay_of_sum (Nat.le_refl 1) first_month (by omega) first_day last_day sum
  unfold ofNumber?
  rw [if_neg (by omega), yearOfNumber_of_between first_year after upto]
  dsimp only
  rw [found, ofParts?, dif_pos d.valid]

theorem number_lt (d : Date) : d.number < 3652060 := by
  obtain ⟨-, last_year, -⟩ := d.parts_valid
  have last := daysBeforeYear_mono (Nat.le_add_left 1 d.year) (Nat.succ_le_succ last_year)
  have upto := Nat.le_trans d.number_bounds.2 last
  have end_of_years : daysBeforeYear (Nat.succ 9999) = 3652059 := by decide
  omega

end Date

/-! ## Points in time -/

namespace DateTime

theorem ofParts?_parts (t : DateTime) : ofParts? t.date t.time t.offset = some t := by
  obtain ⟨date, time, offset, early, near⟩ := t
  rw [ofParts?, dif_pos early]
  cases offset with
  | none => rfl
  | some o =>
    have small : o.natAbs < microsPerDay := near o rfl
    simp only [small, dif_pos]

theorem microsPerDay_eq : (microsPerDay : Int) = 86400000000 := by decide

theorem time_bound (t : DateTime) : t.time < 86400000000 := t.time_lt

theorem sinceEpoch_day {t : DateTime} (utc : t.offset = some 0) :
    t.sinceEpoch.fdiv microsPerDay = (t.date.number : Int) - Date.epochNumber
      ∧ t.sinceEpoch.fmod microsPerDay = t.time := by
  have early := t.time_bound
  rw [sinceEpoch, utc, Option.getD_some, microsPerDay_eq, Int.fdiv_eq_ediv_of_nonneg _ (by decide),
    Int.fmod_eq_emod_of_nonneg _ (by decide)]
  omega

/-- The microseconds of a point in universal time lead back to the point. -/
theorem ofEpoch?_sinceEpoch {t : DateTime} (utc : t.offset = some 0) :
    ofEpoch? t.sinceEpoch = some t := by
  obtain ⟨days, rest⟩ := sinceEpoch_day utc
  have first := t.date.number_bounds.1
  have number : (t.date.number : Int) - Date.epochNumber + Date.epochNumber = t.date.number := by omega
  unfold ofEpoch?
  rw [days, rest]
  dsimp only
  rw [number, if_neg (by omega), Int.toNat_natCast, Date.ofNumber?_number, Int.toNat_natCast]
  have built := ofParts?_parts t
  rw [utc] at built
  exact built

/-- A point in universal time lies less than fifty-three bits of seconds from 1970. -/
theorem sinceEpoch_natAbs_lt {t : DateTime} (utc : t.offset = some 0) :
    t.sinceEpoch.natAbs < 2 ^ 53 * 1000000 := by
  have early := t.time_bound
  have last := t.date.number_lt
  have zero : Date.epochNumber = 719163 := rfl
  rw [sinceEpoch, utc, Option.getD_some, microsPerDay_eq, zero]
  omega

end DateTime

end TypedQuery
