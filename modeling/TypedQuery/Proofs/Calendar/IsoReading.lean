import Mathlib.Data.List.TakeWhile
import TypedQuery.Calendar.Iso
import TypedQuery.Proofs.Calendar.DayNumbers
import TypedQuery.Proofs.Number.IntegerReading

/-! # Reading dates and times that were printed

Each printed part has a fixed number of digits and is read as the number it was. A day is read as
the day, and a point in time as the point, but for an offset of less than a second, which the reader
takes for none. -/

namespace TypedQuery
set_option autoImplicit false

/-! ## Parts of fixed width -/

section Padded

variable {width n : Nat} (short : n < 10 ^ width)

theorem padded_isDigit (width n : Nat) : ∀ c ∈ padded width n, c.isDigit = true := by
  intro c inside
  unfold padded at inside
  rcases List.mem_append.1 inside with zero | figure
  · rw [List.eq_of_mem_replicate zero]
    rfl
  · exact decimalDigits_isDigit n c figure

theorem digitsValue_padded (width n : Nat) : digitsValue (padded width n) = n := by
  have zeros : ∀ k cs, digitsValue (List.replicate k '0' ++ cs) = digitsValue cs := by
    intro k cs
    induction k with
    | zero => rfl
    | succ k ih => exact ih
  rw [padded, zeros, digitsValue_decimalDigits]

include short

theorem length_padded (some_digit : 0 < width) : (padded width n).length = width := by
  obtain ⟨k, rfl⟩ : ∃ k, width = k + 1 := ⟨width - 1, by omega⟩
  have bound := length_decimalDigits_le k short
  rw [padded, List.length_append, List.length_replicate]
  omega

theorem digits?_padded (some_digit : 0 < width) (rest : List Char) :
    IsoReader.digits? width (padded width n ++ rest) = some (n, rest) := by
  have length := length_padded short some_digit
  have digits : (padded width n).all Char.isDigit = true := List.all_eq_true.2 (padded_isDigit width n)
  unfold IsoReader.digits?
  dsimp only
  rw [List.take_left' length, List.drop_left' length, if_pos ⟨length, digits⟩, digitsValue_padded]

end Padded

theorem head?_padded_ne {width n : Nat} {c : Char} (mark : c.isDigit = false) (rest : List Char)
    (other : rest.head? ≠ some c) : (padded width n ++ rest).head? ≠ some c := by
  cases shape : padded width n with
  | nil => exact other
  | cons d tail =>
    have digit := padded_isDigit width n d (by rw [shape]; exact List.mem_cons_self ..)
    rintro ⟨⟩
    rw [mark] at digit
    cases digit

/-! ## Days -/

namespace Date

theorem isoChars_bounds (d : Date) : d.year < 10 ^ 4 ∧ d.month < 10 ^ 2 ∧ d.day < 10 ^ 2 := by
  obtain ⟨-, last_year, -, last_month, -, last_day⟩ := d.parts_valid
  have month : daysInMonth d.year d.month ≤ 31 := by
    unfold daysInMonth
    split <;> try omega
    split <;> omega
  omega

theorem length_isoChars (d : Date) : d.isoChars.length = 10 := by
  obtain ⟨year, month, day⟩ := d.isoChars_bounds
  simp [isoChars, length_padded year, length_padded month, length_padded day]

/-- A printed day is read as the day. -/
theorem date?_isoChars (d : Date) : IsoReader.date? d.isoChars = some d := by
  obtain ⟨year, month, day⟩ := d.isoChars_bounds
  have weekless : (padded 2 d.month ++ '-' :: padded 2 d.day).head? ≠ some 'W' :=
    head?_padded_ne rfl _ (by simp)
  have last := digits?_padded day (by decide) []
  rw [List.append_nil] at last
  unfold IsoReader.date? isoChars
  simp only [List.append_assoc, List.cons_append]
  rw [digits?_padded year (by decide)]
  simp only [Option.bind_eq_bind, Option.bind_some, List.head?_cons, if_true, List.drop_one,
    List.tail_cons, if_neg weekless, digits?_padded month (by decide), decide_true, Bool.not_true,
    Bool.false_eq_true, if_false, last]
  rw [ofParts?, dif_pos d.valid]

end Date

/-! ## Times -/

namespace IsoReader

/-- The characters of a time, without an offset. -/
def clockChars (hour minute second micro : Nat) : List Char :=
  padded 2 hour ++ ':' :: padded 2 minute ++ ':' :: padded 2 second ++ DateTime.microChars micro

theorem length_microChars {micro : Nat} (small : micro < microsPerSecond) :
    (DateTime.microChars micro).length = if micro = 0 then 0 else 7 := by
  unfold DateTime.microChars
  split
  · rfl
  · rw [List.length_cons, length_padded small (by decide)]

section Parts

variable {n : Nat} (short : n < 10 ^ 2) {colons : Bool} {clock : Clock} {count part stop : Nat}
  {rest : List Char}
include short

/-- A part with a colon behind it leaves the rest to the next one. -/
theorem parts?_colon (colon : part = 0 ∨ colons = true) (more : 4 ≤ stop) :
    parts? colons clock (count + 1) part stop (padded 2 n ++ ':' :: rest)
      = parts? true (clock.put part n) count (part + 1) (stop - 3) rest := by
  have kept : if part = 0 then True else colons = true := by
    split
    · trivial
    · exact colon.resolve_left ‹_›
  rw [parts?, digits?_padded short (by decide)]
  simp only [Option.bind_eq_bind, Option.bind_some, List.head?_cons, if_neg (Nat.not_lt.2 more), kept,
    and_self, if_true, decide_true, List.drop_one, List.tail_cons]

/-- The last part before the offset. -/
theorem parts?_last (last : stop < 4) :
    parts? colons clock (count + 1) part stop (padded 2 n ++ rest)
      = some { clock.put part n with ended := endsText rest } := by
  rw [parts?, digits?_padded short (by decide)]
  simp only [Option.bind_eq_bind, Option.bind_some, if_pos last]
  rfl

/-- A part with a point behind it has a fraction of a second. -/
theorem parts?_point (more : 4 ≤ stop) :
    parts? colons clock (count + 1) part stop (padded 2 n ++ '.' :: rest)
      = fraction? (clock.put part n) (stop - 3) rest := by
  rw [parts?, digits?_padded short (by decide)]
  simp [Nat.not_lt.2 more]

end Parts

theorem fraction?_padded {micro : Nat} (small : micro < microsPerSecond) (clock : Clock)
    {rest : List Char} (behind : rest.dropWhile Char.isDigit = rest) :
    fraction? clock 6 (padded 6 micro ++ rest)
      = some { clock with micro := micro, ended := endsText rest } := by
  unfold fraction?
  dsimp only
  rw [Nat.min_self, digits?_padded small (by decide)]
  simp [behind]

/-- A printed time is read part by part; what comes behind it may not begin with a digit. -/
theorem clock?_chars {hour minute second micro : Nat} (hours : hour < 10 ^ 2) (minutes : minute < 10 ^ 2)
    (seconds : second < 10 ^ 2) (small : micro < microsPerSecond) (rest : List Char)
    (behind : rest.dropWhile Char.isDigit = rest) :
    clock? (clockChars hour minute second micro).length (clockChars hour minute second micro ++ rest)
      = some ⟨hour, minute, second, micro, endsText rest⟩ := by
  have length : (clockChars hour minute second micro).length = 8 + if micro = 0 then 0 else 7 := by
    simp [clockChars, length_padded hours, length_padded minutes, length_padded seconds,
      length_microChars small]
    omega
  unfold clock?
  rw [length, clockChars]
  simp only [List.append_assoc, List.cons_append]
  rw [parts?_colon hours (.inl rfl) (by omega), parts?_colon minutes (.inr rfl) (by omega)]
  unfold DateTime.microChars
  split
  · rename_i whole
    rw [List.nil_append, parts?_last seconds (by omega), whole]
    rfl
  · rw [List.cons_append, parts?_point seconds (by omega), fraction?_padded small _ behind]
    rfl

theorem clock?_minutes {hour minute : Nat} (hours : hour < 10 ^ 2) (minutes : minute < 10 ^ 2) :
    clock? (padded 2 hour ++ ':' :: padded 2 minute).length (padded 2 hour ++ ':' :: padded 2 minute)
      = some ⟨hour, minute, 0, 0, true⟩ := by
  have length : (padded 2 hour ++ ':' :: padded 2 minute).length = 5 := by
    simp [length_padded hours, length_padded minutes]
  have last : parts? true (Clock.put {} 0 hour) 2 1 2 (padded 2 minute ++ [])
      = some ⟨hour, minute, 0, 0, true⟩ := parts?_last minutes (by decide)
  rw [List.append_nil] at last
  unfold clock?
  rw [length, parts?_colon hours (.inl rfl) (by decide), last]

/-! ## Offsets -/

/-- An offset as it is read: one of less than a second is taken for none. -/
def heard (offset : Int) : Int := if offset.natAbs < microsPerSecond then 0 else offset

theorem offset?_of_clock {cs : List Char} {clock : Clock} (read : clock? cs.length cs = some clock)
    (ended : clock.ended = true) {offset : Int} (seconds : (clock.hour * 60 + clock.minute) * 60
      + clock.second = offset.natAbs / microsPerSecond)
    (rest : clock.micro = offset.natAbs % microsPerSecond) :
    offset? (decide (offset < 0)) cs = some (heard offset) := by
  have whole : (offset.natAbs / microsPerSecond * microsPerSecond + offset.natAbs % microsPerSecond : Nat)
      = offset.natAbs := Nat.div_add_mod' ..
  have tiny : offset.natAbs / microsPerSecond = 0 ↔ offset.natAbs < microsPerSecond :=
    Nat.div_eq_zero_iff_lt (by decide)
  unfold offset? heard
  rw [read]
  simp only [Option.bind_eq_bind, Option.bind_some, ended, Bool.not_true, Bool.false_eq_true, if_false,
    seconds, rest, whole, tiny, decide_eq_true_eq, Option.pure_def, Option.some.injEq]
  by_cases small : offset.natAbs < microsPerSecond
  · simp [small]
  · rw [if_neg small, if_neg small]
    split <;> omega

/-- An offset is printed as a sign and a time, cut after the minutes if nothing follows them. -/
theorem offsetChars_eq (offset : Int) : DateTime.offsetChars offset
    = (if offset < 0 then '-' else '+') ::
      if offset.natAbs / microsPerSecond % 60 = 0 ∧ offset.natAbs % microsPerSecond = 0 then
        padded 2 (offset.natAbs / microsPerSecond / 3600)
          ++ ':' :: padded 2 (offset.natAbs / microsPerSecond / 60 % 60)
      else
        clockChars (offset.natAbs / microsPerSecond / 3600) (offset.natAbs / microsPerSecond / 60 % 60)
          (offset.natAbs / microsPerSecond % 60) (offset.natAbs % microsPerSecond) := by
  unfold DateTime.offsetChars
  dsimp only
  by_cases brief : offset.natAbs / microsPerSecond % 60 = 0 ∧ offset.natAbs % microsPerSecond = 0
  · rw [if_pos brief, if_pos brief, List.append_nil, List.cons_append]
  · rw [if_neg brief, if_neg brief]
    simp only [clockChars, List.append_assoc, List.cons_append]

/-- A printed offset is read as it is heard. -/
theorem offset?_offsetChars {offset : Int} (near : offset.natAbs < microsPerDay) :
    ∃ sign rest, DateTime.offsetChars offset = sign :: rest ∧ (sign = '+' ∨ sign = '-')
      ∧ offset? (sign = '-') rest = some (heard offset) := by
  have within : offset.natAbs / microsPerSecond < 86400 := by
    rw [Nat.div_lt_iff_lt_mul (by decide)]
    exact near
  have hours : offset.natAbs / microsPerSecond / 3600 < 10 ^ 2 := by omega
  have minutes : offset.natAbs / microsPerSecond / 60 % 60 < 10 ^ 2 := by omega
  have seconds : offset.natAbs / microsPerSecond % 60 < 10 ^ 2 := by omega
  have small : offset.natAbs % microsPerSecond < microsPerSecond := Nat.mod_lt _ (by decide)
  have sign : decide ((if offset < 0 then '-' else '+') = '-') = decide (offset < 0) := by
    split <;> rename_i negative <;> simp [negative]
  refine ⟨_, _, offsetChars_eq offset, ?_, ?_⟩
  · split
    · exact .inr rfl
    · exact .inl rfl
  · rw [sign]
    split
    · rename_i brief
      refine offset?_of_clock (clock?_minutes hours minutes) rfl ?_ brief.2.symm
      dsimp only
      omega
    · have read := clock?_chars hours minutes seconds small [] rfl
      rw [List.append_nil] at read
      refine offset?_of_clock read rfl ?_ rfl
      dsimp only
      omega

/-! ## Times with an offset -/

theorem clockChars_chars {hour minute second micro : Nat} {c : Char}
    (inside : c ∈ clockChars hour minute second micro) : c.isDigit = true ∨ c = ':' ∨ c = '.' := by
  have digit : ∀ {width n : Nat}, c ∈ padded width n → c.isDigit = true ∨ c = ':' ∨ c = '.' :=
    fun figure => .inl (padded_isDigit _ _ c figure)
  simp only [clockChars, DateTime.microChars, List.mem_append, List.mem_cons] at inside
  rcases inside with ((figure | colon | figure) | colon | figure) | fraction
  · exact digit figure
  · exact .inr (.inl colon)
  · exact digit figure
  · exact .inr (.inl colon)
  · exact digit figure
  · split at fraction
    · cases fraction
    · rcases List.mem_cons.1 fraction with point | figure
      · exact .inr (.inr point)
      · exact digit figure

theorem offsetStart_chars (hour minute second micro : Nat) {tail : List Char}
    (apart : tail = [] ∨ ∃ sign rest, tail = sign :: rest ∧ (sign = '+' ∨ sign = '-')) :
    offsetStart (clockChars hour minute second micro ++ tail)
      = (clockChars hour minute second micro).length := by
  have unsigned : ∀ c ∈ clockChars hour minute second micro,
      (c ≠ '+' && c ≠ '-' && c ≠ 'Z') = true := by
    intro c inside
    have known := clockChars_chars inside
    have plain : c ≠ '+' ∧ c ≠ '-' ∧ c ≠ 'Z' := by
      refine ⟨?_, ?_, ?_⟩ <;> rintro rfl <;> exact absurd known (by decide)
    simp [plain]
  rw [offsetStart, List.takeWhile_append_of_pos unsigned]
  rcases apart with rfl | ⟨sign, rest, rfl, rfl | rfl⟩
  · rw [List.takeWhile_nil, List.append_nil]
  · rw [List.takeWhile_cons_of_neg (by decide), List.append_nil]
  · rw [List.takeWhile_cons_of_neg (by decide), List.append_nil]

/-- A printed time of day, with its offset if it has one. -/
theorem time?_chars {hour minute second micro : Nat} (hours : hour < 24) (minutes : minute < 60)
    (seconds : second < 60) (small : micro < microsPerSecond) {offset : Option Int}
    (near : ∀ o, offset = some o → o.natAbs < microsPerDay) :
    time? (clockChars hour minute second micro ++ (offset.map DateTime.offsetChars).getD [])
      = some (((hour * 60 + minute) * 60 + second) * microsPerSecond + micro, offset.map heard) := by
  have ofDay : DateTime.timeOfDay? hour minute second micro
      = some (((hour * 60 + minute) * 60 + second) * microsPerSecond + micro) :=
    if_pos ⟨hours, minutes, seconds, small⟩
  have read := @clock?_chars hour minute second micro (hours.trans (by decide))
    (minutes.trans (by decide)) (seconds.trans (by decide)) small
  unfold time?
  cases offset with
  | none =>
    have start := offsetStart_chars hour minute second micro (.inl rfl)
    have whole := read [] rfl
    rw [List.append_nil] at start whole
    simp only [Option.map_none, Option.getD_none, List.append_nil, start, whole, Option.bind_eq_bind,
      Option.bind_some, List.drop_length, ofDay, endsText, if_true]
    rfl
  | some o =>
    obtain ⟨sign, rest, printed, signed, heard⟩ := offset?_offsetChars (near o rfl)
    have behind : (sign :: rest).dropWhile Char.isDigit = sign :: rest := by
      rcases signed with rfl | rfl <;> rfl
    have other : sign ≠ 'Z' := by
      rcases signed with rfl | rfl <;> decide
    simp only [Option.map_some, Option.getD_some, printed,
      offsetStart_chars hour minute second micro (.inr ⟨sign, rest, rfl, signed⟩), read _ behind,
      Option.bind_eq_bind, Option.bind_some, List.drop_left, ofDay, if_neg other, heard]
    rfl

end IsoReader

/-! ## Points in time -/

namespace DateTime

theorem isoChars_eq (t : DateTime) : t.isoChars 'T' = t.date.isoChars ++ 'T' ::
    (IsoReader.clockChars t.hour t.minute t.second t.microsecond
      ++ (t.offset.map offsetChars).getD []) := by
  simp only [isoChars, IsoReader.clockChars, List.append_assoc, List.cons_append]

/-- A point in time as it is read from its text. -/
def heard (t : DateTime) : DateTime where
  date := t.date
  time := t.time
  offset := t.offset.map IsoReader.heard
  time_lt := t.time_lt
  offset_lt := by
    intro o same
    obtain ⟨east, known, rfl⟩ := Option.map_eq_some_iff.1 same
    have near := t.offset_lt east known
    unfold IsoReader.heard
    split
    · decide
    · exact near

theorem time?_isoChars (t : DateTime) :
    IsoReader.time? (IsoReader.clockChars t.hour t.minute t.second t.microsecond
      ++ (t.offset.map offsetChars).getD []) = some (t.time, t.offset.map IsoReader.heard) := by
  have early := t.time_bound
  have whole : ((t.hour * 60 + t.minute) * 60 + t.second) * microsPerSecond + t.microsecond = t.time := by
    unfold hour minute second microsecond microsPerSecond
    omega
  have hours : t.hour < 24 := by
    unfold hour microsPerSecond
    omega
  have minutes : t.minute < 60 := Nat.mod_lt _ (by decide)
  have seconds : t.second < 60 := Nat.mod_lt _ (by decide)
  have small : t.microsecond < microsPerSecond := Nat.mod_lt _ (by decide)
  rw [IsoReader.time?_chars hours minutes seconds small t.offset_lt, whole]

end DateTime

/-! ## Texts -/

/-- The characters of a printed point in time: each takes one place, and none is a letter of a
zone. -/
def IsIsoChar (c : Char) : Prop := c.isDigit = true ∨ c ∈ ['-', '+', ':', '.', 'T']

theorem digitChar_utf8Size : ∀ k < 10, (Char.ofNat (48 + k)).utf8Size = 1 := by decide

theorem IsIsoChar.plain {c : Char} (h : IsIsoChar c) : c.utf8Size = 1 ∧ c ≠ 'Z' := by
  rcases h with digit | mark
  · constructor
    · obtain ⟨k, small, rfl⟩ := exists_digitChar digit
      exact digitChar_utf8Size k small
    · rintro rfl
      cases digit
  · simp only [List.mem_cons, List.not_mem_nil, or_false] at mark
    rcases mark with rfl | rfl | rfl | rfl | rfl <;> exact ⟨rfl, by decide⟩

theorem isIsoChar_padded {width n : Nat} {c : Char} (inside : c ∈ padded width n) : IsIsoChar c :=
  .inl (padded_isDigit width n c inside)

theorem Date.isIsoChar {d : Date} {c : Char} (inside : c ∈ d.isoChars) : IsIsoChar c := by
  have dash : c = '-' → IsIsoChar c := by
    rintro rfl
    exact .inr (by decide)
  simp only [isoChars, List.mem_append, List.mem_cons] at inside
  rcases inside with (year | mark | month) | mark | day
  · exact isIsoChar_padded year
  · exact dash mark
  · exact isIsoChar_padded month
  · exact dash mark
  · exact isIsoChar_padded day

theorem IsoReader.clockChars_isIsoChar {hour minute second micro : Nat} {c : Char}
    (inside : c ∈ clockChars hour minute second micro) : IsIsoChar c := by
  rcases clockChars_chars inside with digit | rfl | rfl
  · exact .inl digit
  · exact .inr (by decide)
  · exact .inr (by decide)

theorem IsoReader.offsetChars_isIsoChar {offset : Int} {c : Char}
    (inside : c ∈ DateTime.offsetChars offset) : IsIsoChar c := by
  rw [offsetChars_eq, List.mem_cons] at inside
  rcases inside with rfl | inside
  · right
    split <;> decide
  · split at inside
    · simp only [List.mem_append, List.mem_cons] at inside
      rcases inside with hour | rfl | minute
      · exact isIsoChar_padded hour
      · exact .inr (by decide)
      · exact isIsoChar_padded minute
    · exact clockChars_isIsoChar inside

namespace DateTime

theorem isIsoChar {t : DateTime} {c : Char} (inside : c ∈ t.isoText.toList) : IsIsoChar c := by
  rw [isoText, String.toList_ofList, isoChars_eq, List.mem_append, List.mem_cons,
    List.mem_append] at inside
  rcases inside with date | rfl | time | offset
  · exact Date.isIsoChar date
  · exact .inr (by decide)
  · exact IsoReader.clockChars_isIsoChar time
  · cases known : t.offset with
    | none =>
      rw [known] at offset
      cases offset
    | some o =>
      rw [known] at offset
      exact IsoReader.offsetChars_isIsoChar offset

end DateTime

theorem flatMap_plain {f : Char → List Char} {cs : List Char} (plain : ∀ c ∈ cs, f c = [c]) :
    cs.flatMap f = cs := by
  induction cs with
  | nil => rfl
  | cons c rest ih =>
    rw [List.flatMap_cons, plain c (List.mem_cons_self ..),
      ih fun d hd => plain d (List.mem_cons_of_mem _ hd)]
    rfl

theorem IsoReader.inPlaces_plain {cs : List Char} (plain : ∀ c ∈ cs, IsIsoChar c) :
    inPlaces cs = cs := by
  refine flatMap_plain fun c hc => ?_
  rw [(plain c hc).plain.1]
  rfl

theorem IsoReader.dateLength_isoChars (d : Date) (rest : List Char) :
    dateLength (d.isoChars ++ rest) = 10 := by
  obtain ⟨year, month, day⟩ := d.isoChars_bounds
  have four := length_padded year (by decide)
  have long : (d.isoChars ++ rest).length ≠ 7 := by
    rw [List.length_append, d.length_isoChars]
    omega
  have split : d.isoChars ++ rest
      = padded 4 d.year ++ '-' :: (padded 2 d.month ++ '-' :: (padded 2 d.day ++ rest)) := by
    simp only [Date.isoChars, List.append_assoc, List.cons_append]
  have dash : (d.isoChars ++ rest)[4]? = some '-' := by
    rw [split, List.getElem?_append_right (by omega), four]
    rfl
  have weekless : (d.isoChars ++ rest)[5]? ≠ some 'W' := by
    rw [split, List.getElem?_append_right (by omega), four, List.getElem?_cons_succ,
      ← List.head?_eq_getElem?]
    exact head?_padded_ne rfl _ (by simp)
  rw [dateLength, if_neg long, if_pos dash, if_neg weekless]

/-- A printed day is read as its midnight. -/
theorem Date.ofIso?_isoText (d : Date) : DateTime.ofIso? d.isoText = DateTime.ofParts? d 0 none := by
  have length := d.length_isoChars
  have long : ¬ d.isoText.length < 7 := by
    rw [isoText, String.length_ofList, length]
    decide
  have places : IsoReader.inPlaces d.isoText.toList = d.isoChars := by
    rw [isoText, String.toList_ofList, IsoReader.inPlaces_plain fun c hc => Date.isIsoChar hc]
  have dated := IsoReader.dateLength_isoChars d []
  rw [List.append_nil] at dated
  unfold DateTime.ofIso?
  rw [if_neg long]
  simp only [places, dated, List.take_of_length_le length.le, List.drop_of_length_le length.le,
    d.date?_isoChars, Option.bind_eq_bind, Option.bind_some]

/-- A printed point in time is read as it is heard. -/
theorem DateTime.ofIso?_isoText (t : DateTime) : ofIso? t.isoText = some t.heard := by
  have length := t.date.length_isoChars
  have long : ¬ t.isoText.length < 7 := by
    rw [isoText, String.length_ofList, isoChars_eq, List.length_append, length]
    omega
  have places : IsoReader.inPlaces t.isoText.toList = t.isoChars 'T' := by
    rw [IsoReader.inPlaces_plain fun c hc => t.isIsoChar hc, isoText, String.toList_ofList]
  have narrow : ('T' : Char).utf8Size - 1 = 0 := by decide
  unfold ofIso?
  rw [if_neg long]
  simp only [places, isoChars_eq, IsoReader.dateLength_isoChars, List.take_left' length,
    List.drop_left' length, t.date.date?_isoChars, Option.bind_eq_bind, Option.bind_some]
  rw [narrow, List.drop_zero, t.time?_isoChars]
  exact ofParts?_parts t.heard

end TypedQuery
