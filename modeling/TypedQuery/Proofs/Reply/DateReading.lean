import TypedQuery.Proofs.Condition.Moments
import TypedQuery.Proofs.Query.LeafPlan
import TypedQuery.Proofs.Text.Casing

/-! # Dates through the store and back

A date is kept as seconds since 1970. A point in time at a whole second is written as an integer, and
the text of this integer is read as the same instant. Other points go through the nearest double,
which may be another instant. -/

namespace TypedQuery
set_option autoImplicit false

/-! ## The text of an integer as a token -/

theorem digit_plain : ∀ k < 10, (Char.ofNat (48 + k)).toNat ≠ 0x3a3
    ∧ lowerChars (Char.ofNat (48 + k)) = [Char.ofNat (48 + k)]
    ∧ isBlank (Char.ofNat (48 + k)) = false ∧ Char.ofNat (48 + k) ≠ 'n' := by
  decide

theorem intText_plain {n : Int} {c : Char} (inside : c ∈ (intText n).toList) :
    c.toNat ≠ 0x3a3 ∧ lowerChars c = [c] ∧ isBlank c = false ∧ c ≠ 'n' := by
  have digit : c ∈ decimalDigits n.natAbs → c.toNat ≠ 0x3a3 ∧ lowerChars c = [c] ∧ isBlank c = false
      ∧ c ≠ 'n' := by
    intro figure
    obtain ⟨k, small, rfl⟩ := exists_digitChar (decimalDigits_isDigit n.natAbs c figure)
    exact digit_plain k small
  unfold intText at inside
  split at inside
  · rw [String.toList_append, String.toList_ofList, List.mem_append] at inside
    rcases inside with sign | figure
    · have minus : c = '-' := by simpa using sign
      rw [minus]
      decide
    · exact digit (by simpa using figure)
  · rw [String.toList_ofList] at inside
    exact digit inside

theorem lowerCase_intText (n : Int) : lowerCase (intText n) = intText n := by
  rw [lowerCase, lowerFrom_each (f := id) fun c hc => ⟨(intText_plain hc).1, (intText_plain hc).2.1⟩,
    List.map_id, String.ofList_toList]

theorem trimmed_intText (n : Int) : trimmed (intText n) = intText n := by
  have plain : ∀ c ∈ (intText n).toList, isBlank c = false := fun c hc => (intText_plain hc).2.2.1
  rw [trimmed, trimBlanks, dropWhile_of_forall plain,
    dropWhile_of_forall fun c hc => plain c (List.mem_reverse.1 hc), List.reverse_reverse,
    String.ofList_toList]

/-- No word of the table is the text of an integer. -/
def Sentinels.SparesIntegers (words : Sentinels) : Prop := ∀ n, words.lookup (intText n) = none

theorem defaultSentinels_spare : defaultSentinels.SparesIntegers := by
  intro n
  have lettered : ∀ entry ∈ defaultSentinels, 'n' ∈ entry.1.toList := by decide
  rw [List.lookup_eq_none_iff]
  intro entry listed
  rw [bne_iff_ne]
  intro same
  have inside := lettered entry listed
  rw [← same] at inside
  exact (intText_plain inside).2.2.2 rfl

/-! ## Reading -/

section Reading

variable {words : Sentinels} {column : String} {v : Value} {n : Int} {u : DateTime}

theorem length_seconds_le (short : n.natAbs < 2 ^ 53) : (decimalDigits n.natAbs).length ≤ 400 := by
  have bound := length_decimalDigits_le 15 (n := n.natAbs) (by omega)
  omega

theorem seconds_natAbs_lt (utc : u.offset = some 0) (whole : u.sinceEpoch = n * microsPerSecond) :
    n.natAbs < 2 ^ 53 := by
  have bound := DateTime.sinceEpoch_natAbs_lt utc
  rw [whole, Int.natAbs_mul] at bound
  exact Nat.lt_of_mul_lt_mul_right bound

/-- The seconds of an instant in universal time can be written. -/
theorem seconds_isShort (utc : u.offset = some 0) (whole : u.sinceEpoch = n * microsPerSecond) :
    isShort n = true :=
  isShort_of_lt (Nat.lt_trans (seconds_natAbs_lt utc whole) (by decide))

theorem readNumber_intText (spared : words.SparesIntegers) (text : rawText v = .ok (intText n))
    (short : n.natAbs < 2 ^ 53) :
    readNumber words column v = .ok (Double.ofFraction (decide (n < 0)) n.natAbs 1) := by
  unfold readNumber
  rw [text, ok_bind]
  dsimp only
  rw [trimmed_intText, lowerCase_intText, spared n, readDouble?_intText (length_seconds_le short)]
  rfl

/-- The seconds of an instant in universal time are read as this instant. -/
theorem readDate_intText (spared : words.SparesIntegers) (text : rawText v = .ok (intText n))
    (utc : u.offset = some 0) (whole : u.sinceEpoch = n * microsPerSecond) :
    readDate words column v = .ok u := by
  have short := seconds_natAbs_lt utc whole
  have held := Double.holds_ofFraction (decide (n < 0)) Nat.one_pos (Nat.mul_one n.natAbs).symm short
  have micros : microsOf (Double.ofFraction (decide (n < 0)) n.natAbs 1) = u.sinceEpoch := by
    rw [microsOf_whole held, signed_natAbs, whole]
  unfold readDate
  rw [readNumber_intText spared text short, ok_bind, held.finite, micros,
    DateTime.ofEpoch?_sinceEpoch utc]
  rfl

end Reading

/-! ## Writing and reading again -/

theorem coerce_date {words : Sentinels} {f : Field} (dated : f.type = .date) (v : Value) :
    coerce words f v = .dateTime <$> readDate words f.name.text v := by
  unfold coerce
  rw [dated]
  rfl

namespace DateTime

variable {t u : DateTime} {n : Int}

theorem toEpoch_whole (utc : u.offset = some 0) (whole : u.sinceEpoch = n * microsPerSecond)
    (same : t.sinceEpoch = u.sinceEpoch) : toEpoch (.dateTime t) = .ok (.int n) := by
  rw [toEpoch, same, whole, secondsOf_whole (seconds_natAbs_lt utc whole)]

theorem sinceEpoch_whole (second : t.microsecond = 0)
    (offset : (microsPerSecond : Int) ∣ t.offset.getD 0) : ∃ n, t.sinceEpoch = n * microsPerSecond := by
  obtain ⟨east, offset⟩ := offset
  obtain ⟨seconds, time⟩ := Nat.dvd_of_mod_eq_zero second
  refine ⟨((t.date.number : Int) - Date.epochNumber) * 86400 + seconds - east, ?_⟩
  rw [sinceEpoch, offset, time, microsPerDay]
  push_cast
  ring

end DateTime

theorem Condition.equals_date {f : Field} (dated : f.type = .date) {v : Value} {n : Numeral}
    (seconds : toEpoch v = .ok n) : Condition.equals (.field f .schema) v
      = .ok (.leaf (.field f .schema) (.equals (.ofNumeral n))) := by
  have fits : requireField (.field f .schema) "equals" [.text, .tag, .number, .boolean, .date]
      = .ok f := by
    simp [requireField, dated]
  have value : equalValue f v = .ok (.ofNumeral n) := by
    unfold equalValue
    rw [dated]
    dsimp only
    rw [seconds, mapError_ok, map_ok]
  rw [Condition.equals, fits, ok_bind, value]
  rfl

namespace Compiler

/-- A leaf without neighbours is a query of its own. -/
theorem compile_leafText (c : Compiler) {target : Target} {p : Predicate} {text : String}
    (plain : (Condition.leaf target p).isNearest = false)
    (written : c.schema.leafText target p = .ok text) :
    ∃ plan, c.compile (.leaf target p) {} = .ok plan ∧ plan.query = text ∧ plan.params = [] := by
  have alone : (Condition.leaf target p).nearestLeaves = [] := by
    simp [Condition.nearestLeaves, plain]
  have whole : c.schema.conditionText (.leaf target p) = .ok text := by
    rw [Schema.conditionText, if_neg (by simp [Condition.isEmpty]), Schema.emit, written]
  have free : c.nearestClause? (.leaf target p) = .ok none := nearestClause?_of_none alone
  have asked : c.question (.leaf target p) = .ok ⟨text, [], [], none⟩ := by
    rw [question, free, ok_bind]
    dsimp only
    rw [whole]
    rfl
  unfold compile
  rw [asked]
  exact ⟨_, rfl, rfl, rfl⟩

theorem compile_date_equals (c : Compiler) {f : Field} (declared : f ∈ c.schema.fields)
    (dated : f.type = .date) {v : Value} {n : Int} (short : isShort n = true)
    (seconds : toEpoch v = .ok (.int n)) :
    ∃ node plan, Condition.equals (.field f .schema) v = .ok node ∧ c.compile node {} = .ok plan
      ∧ plan.query = "@" ++ f.storeName.text ++ ":[" ++ intText n ++ " " ++ intText n ++ "]"
      ∧ plan.params = [] := by
  have built := Condition.equals_date dated seconds
  have clause : (Predicate.equals (.int n)).clause c.schema f
      = .ok (inBrackets (intText n ++ " " ++ intText n)) := by
    have text : (Value.int n).queryNumber = .ok (intText n) := Value.display_int short
    rw [Predicate.clause, dated]
    dsimp only
    rw [text]
    rfl
  have made : (Predicate.equals (.int n)).WellMade f := .number (n := .int n) (.inr dated)
  have written := Schema.leafText_of_wellMade declared made rfl
  rw [clause, ok_bind] at written
  obtain ⟨plan, compiled, query, params⟩ := c.compile_leafText rfl written
  refine ⟨_, plan, built, compiled, ?_, params⟩
  rw [query]
  simp only [inBrackets, String.append_assoc]
  rfl

/-- Points in time at a whole second survive the store, whichever way they are kept: the text of an
integer is read as the instant, which is asked for by this integer, and what is written for a point
with an offset of whole seconds is read as its instant in universal time. The table of words must not
know an integer, as the default one does not. -/
theorem whole_seconds_return (c : Compiler) {f : Field} (declared : f ∈ c.schema.fields)
    (dated : f.type = .date) (spared : c.settings.sentinels.SparesIntegers) :
    (∀ (n : Int) (u : DateTime) (v : Value), u.offset = some 0 → u.sinceEpoch = n * microsPerSecond →
        rawText v = .ok (intText n) →
        coerce c.settings.sentinels f v = .ok (.dateTime u)
          ∧ toEpoch (.dateTime u) = .ok (.int n)
          ∧ ∃ node plan, Condition.equals (.field f .schema) (.dateTime u) = .ok node
            ∧ c.compile node {} = .ok plan
            ∧ plan.query = "@" ++ f.storeName.text ++ ":[" ++ intText n ++ " " ++ intText n ++ "]"
            ∧ plan.params = [])
      ∧ (∀ t u : DateTime, t.microsecond = 0 → (microsPerSecond : Int) ∣ t.offset.getD 0 →
        u.offset = some 0 → u.sinceEpoch = t.sinceEpoch →
        ∃ seconds text, toEpoch (.dateTime t) = .ok seconds ∧ seconds.queryText = .ok text
          ∧ ∀ v, rawText v = .ok text → coerce c.settings.sentinels f v = .ok (.dateTime u))
      ∧ defaultSentinels.SparesIntegers := by
  have read : ∀ (n : Int) (u : DateTime) (v : Value), u.offset = some 0 →
      u.sinceEpoch = n * microsPerSecond → rawText v = .ok (intText n) →
      coerce c.settings.sentinels f v = .ok (.dateTime u) := by
    intro n u v utc whole text
    rw [coerce_date dated, readDate_intText spared text utc whole]
    rfl
  refine ⟨?_, ?_, defaultSentinels_spare⟩
  · intro n u v utc whole text
    have seconds := DateTime.toEpoch_whole utc whole rfl
    exact ⟨read n u v utc whole text, seconds,
      c.compile_date_equals declared dated (seconds_isShort utc whole) seconds⟩
  · intro t u second offset utc same
    obtain ⟨n, whole⟩ := DateTime.sinceEpoch_whole second offset
    have instant := same.trans whole
    exact ⟨.int n, intText n, DateTime.toEpoch_whole utc instant same.symm,
      Value.display_int (seconds_isShort utc instant), fun v text => read n u v utc instant text⟩

end Compiler

/-! ## Points around the turn of a year -/

namespace DateTime

/-- Midnight in 5000 on a clock a second and a microsecond ahead. -/
def oddMidnight : DateTime where
  date := ⟨5000, 1, 1, by decide⟩
  time := 0
  offset := some 1000001
  time_lt := midnight_lt
  offset_lt := by
    rintro o ⟨⟩
    decide

/-- A time of day just before the year 5000, in universal time. -/
def late (time : Nat) (early : time < microsPerDay) : DateTime where
  date := ⟨4999, 12, 31, by decide⟩
  time := time
  offset := some 0
  time_lt := early
  offset_lt := utc_near

end DateTime

namespace Compiler

theorem whole_seconds_return_newYear :
    coerce defaultSentinels Products.released (.text "1577836800") = .ok (.dateTime .newYear)
      ∧ ∃ seconds text, toEpoch (.dateTime .newYearEast) = .ok seconds ∧ seconds.queryText = .ok text
        ∧ coerce defaultSentinels Products.released (.text text) = .ok (.dateTime .newYear) := by
  have declared : Products.released ∈ Products.dated.fields := List.mem_singleton_self _
  have trip := whole_seconds_return (Compiler.mk Products.dated {}) declared rfl defaultSentinels_spare
  have written : intText 1577836800 = "1577836800" := by
    simp [intText, decimalDigits]
  constructor
  · exact (trip.1 1577836800 .newYear _ rfl (by decide) (by rw [written]; rfl)).1
  · obtain ⟨seconds, text, kept, query, read⟩ :=
      trip.2.1 .newYearEast .newYear (by decide) (by decide) rfl (by decide)
    exact ⟨seconds, text, kept, query, read _ rfl⟩

/-- An offset that is no whole number of seconds moves a date far from 1970, as the double nearest to
its seconds is another instant, and a table of words that knows an integer hides the date. -/
theorem odd_offset_moves :
    (DateTime.oddMidnight.microsecond = 0
      ∧ DateTime.oddMidnight.sinceEpoch = (DateTime.late 86398999999 (by decide)).sinceEpoch
      ∧ ∃ seconds text, toEpoch (.dateTime .oddMidnight) = .ok seconds ∧ seconds.queryText = .ok text
        ∧ coerce defaultSentinels Products.released (.text text)
          = .ok (.dateTime (.late 86399000000 (by decide)))
        ∧ (DateTime.late 86399000000 (by decide)).sinceEpoch ≠ DateTime.oddMidnight.sinceEpoch)
    ∧ coerce [(intText 1577836800, .notANumber)] Products.released (.text (intText 1577836800))
      ≠ .ok (.dateTime .newYear) := by
  constructor
  · have seconds : toEpoch (.dateTime .oddMidnight) = .ok (.int 95617583999) := by
      have rounded : secondsOf DateTime.oddMidnight.sinceEpoch = .int 95617583999 := by decide +kernel
      rw [toEpoch, rounded]
    have read : readDate defaultSentinels Products.released.name.text (.text (intText 95617583999))
        = .ok (.late 86399000000 (by decide)) :=
      readDate_intText defaultSentinels_spare rfl rfl (by decide)
    refine ⟨by decide, by decide, _, _, seconds, rfl, ?_, by decide⟩
    rw [coerce_date rfl, read]
    rfl
  · have known : readNumber [(intText 1577836800, .notANumber)] Products.released.name.text
        (.text (intText 1577836800)) = .ok .notANumber := by
      have text : rawText (.text (intText 1577836800)) = .ok (intText 1577836800) := rfl
      rw [readNumber, text, ok_bind]
      dsimp only
      rw [trimmed_intText, lowerCase_intText, List.lookup_cons_self]
      rfl
    have missing : (!Double.notANumber.isFinite) = true := by decide
    rw [coerce_date rfl, readDate, known, ok_bind, if_pos missing]
    intro same
    cases same

end Compiler

end TypedQuery
