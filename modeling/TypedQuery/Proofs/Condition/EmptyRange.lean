import Mathlib.Data.EReal.Basic
import TypedQuery.Proofs.Number.Widening
import TypedQuery.Proofs.Query.LeafPlan

/-! # Ranges that hold no number

A range is refused when its lower bound is above the upper one. Whether the bounds themselves belong
to the range is not looked at, so that a range may be built that holds no number. -/

namespace TypedQuery
set_option autoImplicit false

/-! ## Values on the extended line -/

/-- What a number on the extended line is. -/
inductive Extended.Means : Extended → EReal → Prop
  | below : Means .below ⊥
  | above : Means .above ⊤
  | ratio {num : Int} {den : Nat} {q : ℚ} : 0 < den → q = num / den → Means (.ratio num den) (q : ℝ)

theorem Extended.Means.lt_iff {p q : Extended} {x y : EReal} (hp : p.Means x) (hq : q.Means y) :
    p.lt q = true ↔ x < y := by
  cases hp with
  | below => cases hq <;> simp [lt]
  | above => cases hq <;> simp [lt]
  | @ratio a b r positive value =>
    cases hq with
    | below => simp [lt]
    | above => simp [lt]
    | @ratio c d s positive' value' =>
      have left : (0 : ℚ) < b := by exact_mod_cast positive
      have right : (0 : ℚ) < d := by exact_mod_cast positive'
      rw [EReal.coe_lt_coe_iff, Rat.cast_lt, value, value', div_lt_div_iff₀ left right, lt,
        decide_eq_true_eq]
      exact_mod_cast Iff.rfl

namespace Numeral

/-- The value of a number; one that is missing counts as zero. -/
noncomputable def value : Numeral → EReal
  | .int n => (n : ℝ)
  | .double x =>
    match x.datum with
    | .notANumber => 0
    | .infinite negative => if negative then ⊥ else ⊤
    | .finite negative significand place =>
      (((if negative then -1 else 1) * significand * 2 ^ place : ℚ) : ℝ)

theorem extended_means {n : Numeral} (present : (Value.ofNumeral n).isMissing = false) :
    n.extended.Means n.value := by
  cases n with
  | int n =>
    have whole : Extended.Means (.ratio n 1) (((n : ℚ) : ℝ) : EReal) := .ratio Nat.one_pos (by simp)
    simpa [extended, value] using whole
  | double x =>
    cases datum : x.datum with
    | notANumber => simp [Value.ofNumeral, Value.isMissing, Double.isNotANumber, datum] at present
    | infinite negative =>
      simp only [extended, value, datum]
      cases negative
      · exact .above
      · exact .below
    | finite negative s e =>
      simp only [extended, value, datum]
      refine .ratio (Datum.fraction_pos s e) ?_
      rw [mul_assoc, ← Datum.fraction_value]
      cases negative <;> simp [neg_div]

theorem lt_iff {a b : Numeral} (ha : (Value.ofNumeral a).isMissing = false)
    (hb : (Value.ofNumeral b).isMissing = false) : a.lt b = true ↔ a.value < b.value :=
  (extended_means ha).lt_iff (extended_means hb)

end Numeral

/-! ## Bounds -/

namespace Condition

variable {f : Field} {v minimum maximum : Value} {lower upper : Option EReal}

/-- The values that are bounds for a field, with the point that each of them sets. -/
inductive IsBound (f : Field) : Value → Option EReal → Prop
  | absent : IsBound f .null none
  | int (n : Int) : IsBound f (.int n) (some (n : ℝ))
  | double {x : Double} : x.isNotANumber = false → IsBound f (.double x) (some (Numeral.double x).value)
  | dateTime (t : DateTime) : f.type = .date →
    IsBound f (.dateTime t) (some (secondsOf t.sinceEpoch).value)
  | date (d : Date) : f.type = .date →
    IsBound f (.date d) (some ((((d.number : Int) - Date.epochNumber) * 86400 : Int) : ℝ))

theorem boundOf_number (number : f.type = .number) (given : v ≠ .null) :
    boundOf f v = some <$> requireNumber f v := by
  unfold boundOf
  split
  · contradiction
  · rw [if_neg (by simp [number])]

theorem boundOf_date (date : f.type = .date) (given : v ≠ .null) :
    boundOf f v = some <$> toEpoch v := by
  unfold boundOf
  split
  · contradiction
  · rw [if_pos date]

/-- Every bound is taken, as a number whose value is the point that it sets. -/
theorem IsBound.boundOf_eq_ok (fits : f.type = .number ∨ f.type = .date) (h : IsBound f v lower) :
    ∃ n : Option Numeral, boundOf f v = .ok n ∧ n.map Numeral.value = lower
      ∧ ∀ m, n = some m → (Value.ofNumeral m).isMissing = false := by
  cases h with
  | absent => exact ⟨none, rfl, rfl, by simp⟩
  | int n =>
    refine ⟨some (.int n), ?_, rfl, by rintro m ⟨⟩; rfl⟩
    rcases fits with number | date
    · exact boundOf_number (v := .int n) number (by simp)
    · exact boundOf_date (v := .int n) date (by simp)
  | @double x present =>
    refine ⟨some (.double x), ?_, rfl, by rintro m ⟨⟩; exact present⟩
    rcases fits with number | date
    · rw [boundOf_number (v := .double x) number (by simp)]
      simp [requireNumber, Value.number?, present]
    · exact boundOf_date (v := .double x) date (by simp)
  | dateTime t date =>
    exact ⟨_, boundOf_date (v := .dateTime t) date (by simp), rfl,
      by rintro m ⟨⟩; exact secondsOf_present _⟩
  | date d date =>
    exact ⟨_, boundOf_date (v := .date d) date (by simp), rfl, by rintro m ⟨⟩; rfl⟩

/-! ## Points of a range -/

/-- A point lies between two bounds, each of which belongs to the range or not. -/
def Between (lower upper : Option EReal) (lowerInclusive upperInclusive : Bool) (x : EReal) : Prop :=
  (∀ a, lower = some a → if lowerInclusive then a ≤ x else a < x)
    ∧ ∀ b, upper = some b → if upperInclusive then x ≤ b else x < b

def Crossed (lower upper : Option EReal) : Prop := ∃ a b, lower = some a ∧ upper = some b ∧ b < a

/-- The ranges that would hold a single point, a bound, if it belonged to them. -/
inductive Pinched : Option EReal → Option EReal → Bool → Bool → Prop
  | point {a : EReal} {lowerInclusive upperInclusive : Bool} :
    lowerInclusive = false ∨ upperInclusive = false →
    Pinched (some a) (some a) lowerInclusive upperInclusive
  | above {upperInclusive : Bool} : Pinched (some ⊤) none false upperInclusive
  | beneath {lowerInclusive : Bool} : Pinched none (some ⊥) lowerInclusive false

variable {i j : Bool} {x : EReal}

theorem Between.bounds {a b : EReal} (h : Between (some a) (some b) i j x) :
    a ≤ x ∧ x ≤ b ∧ (i = false → a < x) ∧ (j = false → x < b) := by
  have left := h.1 a rfl
  have right := h.2 b rfl
  cases i <;> cases j <;> simp_all [le_of_lt]

theorem not_between_of_crossed (crossed : Crossed lower upper) : ¬ ∃ x, Between lower upper i j x := by
  obtain ⟨a, b, rfl, rfl, above⟩ := crossed
  rintro ⟨x, between⟩
  obtain ⟨left, right, -, -⟩ := between.bounds
  exact absurd (left.trans right) above.not_ge

theorem not_between_of_pinched (pinched : Pinched lower upper i j) :
    ¬ ∃ x, Between lower upper i j x := by
  rintro ⟨x, between⟩
  cases pinched with
  | point exclusive =>
    obtain ⟨left, right, above, beneath⟩ := between.bounds
    rcases exclusive with lower | upper
    · exact absurd (above lower) right.not_gt
    · exact absurd (beneath upper) left.not_gt
  | above => exact not_top_lt (between.1 ⊤ rfl)
  | beneath => exact not_lt_bot (between.2 ⊥ rfl)

theorem Pinched.not_crossed (pinched : Pinched lower upper i j) : ¬ Crossed lower upper := by
  rintro ⟨a, b, low, high, above⟩
  cases pinched with
  | point =>
    cases low
    cases high
    exact lt_irrefl _ above
  | above => cases high
  | beneath => cases low

theorem Pinched.eq {a b : EReal} (pinched : Pinched (some a) (some b) i j) : a = b := by
  cases pinched
  rfl

/-- Bounds that are in order leave room, unless they leave a single point and exclude it. -/
theorem exists_between_of_room (ordered : ¬ Crossed lower upper) (room : ¬ Pinched lower upper i j) :
    ∃ x, Between lower upper i j x := by
  cases lower with
  | none =>
    cases upper with
    | none => exact ⟨0, nofun, nofun⟩
    | some b =>
      refine ⟨⊥, nofun, ?_⟩
      rintro _ ⟨⟩
      cases j with
      | true => exact bot_le
      | false => exact bot_lt_iff_ne_bot.2 fun same => room (same ▸ .beneath)
  | some a =>
    cases upper with
    | none =>
      refine ⟨⊤, ?_, nofun⟩
      rintro _ ⟨⟩
      cases i with
      | true => exact le_top
      | false => exact lt_top_iff_ne_top.2 fun same => room (same ▸ .above)
    | some b =>
      have le : a ≤ b := not_lt.1 fun above => ordered ⟨a, b, rfl, rfl, above⟩
      rcases le.eq_or_lt with rfl | lt
      · refine ⟨a, ?_, ?_⟩
        · rintro _ ⟨⟩
          cases i with
          | true => exact le_rfl
          | false => exact absurd (.point (.inl rfl)) room
        · rintro _ ⟨⟩
          cases j with
          | true => exact le_rfl
          | false => exact absurd (.point (.inr rfl)) room
      · obtain ⟨x, left, right⟩ := exists_between lt
        refine ⟨x, ?_, ?_⟩
        · rintro _ ⟨⟩
          split
          · exact left.le
          · exact left
        · rintro _ ⟨⟩
          split
          · exact right.le
          · exact right

/-! ## Ranges that are refused -/

/-- The message about an empty range shows its bounds. -/
theorem emptyRange_raised (field : String) (minimum maximum : Value) :
    Error.raised (.input (.emptyRange field minimum maximum))
      = if minimum.isWritable && maximum.isWritable then .input (.emptyRange field minimum maximum)
        else .misuse .badValue := by
  have worded : (Error.input (.emptyRange field minimum maximum)).message?.isSome
      = (minimum.isWritable && maximum.isWritable) := by
    rw [← Value.isSome_literal?, ← Value.isSome_literal?, Error.message?, InputFault.message?]
    cases minimum.literal? <;> cases maximum.literal? <;> rfl
  rw [Error.raised, worded]

section Range

variable (fits : f.type = .number ∨ f.type = .date) (low : IsBound f minimum lower)
  (high : IsBound f maximum upper) (origin : Origin) (minInclusive maxInclusive : Value)
include fits low high

/-- A range is refused just when its bounds are crossed. -/
theorem range_settles :
    (¬ Crossed lower upper →
        ∃ c, range (.field f origin) minimum maximum minInclusive maxInclusive = .ok c)
      ∧ (Crossed lower upper → range (.field f origin) minimum maximum minInclusive maxInclusive
        = refuse (.input (.emptyRange f.name.text minimum maximum))) := by
  have allowed : requireField (.field f origin) "range" [.number, .date] = .ok f := by
    rcases fits with number | date
    · simp [requireField, number]
    · simp [requireField, date]
  obtain ⟨a, lowered, rfl, presentLow⟩ := low.boundOf_eq_ok fits
  obtain ⟨b, raised, rfl, presentHigh⟩ := high.boundOf_eq_ok fits
  unfold range
  rw [allowed, ok_bind, lowered, mapError_ok, ok_bind, raised, mapError_ok, ok_bind]
  cases a with
  | none =>
    refine ⟨fun _ => ⟨_, rfl⟩, ?_⟩
    rintro ⟨x, y, ⟨⟩, -⟩
  | some a =>
    cases b with
    | none =>
      refine ⟨fun _ => ⟨_, rfl⟩, ?_⟩
      rintro ⟨x, y, -, ⟨⟩, -⟩
    | some b =>
      have order := Numeral.lt_iff (presentHigh b rfl) (presentLow a rfl)
      dsimp only
      constructor
      · intro straight
        have inside : ¬ b.lt a = true := fun below => straight ⟨_, _, rfl, rfl, order.1 below⟩
        rw [if_neg inside]
        exact ⟨_, rfl⟩
      · rintro ⟨x, y, ⟨⟩, ⟨⟩, above⟩
        rw [if_pos (order.2 above)]
        rfl

/-- A range is refused just when no point meets its bounds as they are written, and it is refused as
empty if the bounds can be written. The bounds that leave a single point and exclude it are taken all
the same. -/
theorem range_refused :
    (¬ Pinched lower upper minInclusive.truthy maxInclusive.truthy →
        ((∃ c, range (.field f origin) minimum maximum minInclusive maxInclusive = .ok c)
          ↔ ∃ x, Between lower upper minInclusive.truthy maxInclusive.truthy x)
        ∧ ((¬ ∃ x, Between lower upper minInclusive.truthy maxInclusive.truthy x) →
          (minimum.isWritable = true ∧ maximum.isWritable = true →
            range (.field f origin) minimum maximum minInclusive maxInclusive
              = .error (.input (.emptyRange f.name.text minimum maximum)))
          ∧ (minimum.isWritable = false ∨ maximum.isWritable = false →
            range (.field f origin) minimum maximum minInclusive maxInclusive
              = .error (.misuse .badValue))))
      ∧ (Pinched lower upper minInclusive.truthy maxInclusive.truthy →
        (∃ c, range (.field f origin) minimum maximum minInclusive maxInclusive = .ok c)
          ∧ ¬ ∃ x, Between lower upper minInclusive.truthy maxInclusive.truthy x) := by
  obtain ⟨taken, refused⟩ := range_settles fits low high origin minInclusive maxInclusive
  constructor
  · intro room
    by_cases crossed : Crossed lower upper
    · have none := not_between_of_crossed (i := minInclusive.truthy) (j := maxInclusive.truthy) crossed
      have failed := refused crossed
      rw [refuse, emptyRange_raised] at failed
      refine ⟨⟨?_, fun some_point => absurd some_point none⟩, fun _ => ⟨fun both => ?_, fun long => ?_⟩⟩
      · rintro ⟨c, made⟩
        rw [failed] at made
        cases made
      · rw [failed, both.1, both.2]
        rfl
      · rw [failed]
        rcases long with long | long <;> simp [long]
    · have point := exists_between_of_room crossed room
      exact ⟨⟨fun _ => point, fun _ => taken crossed⟩, fun none => absurd point none⟩
  · intro pinched
    exact ⟨taken pinched.not_crossed, not_between_of_pinched pinched⟩

end Range

end Condition

/-! ## Products with a price -/

namespace Condition

open Products (price)

theorem range_refused_price :
    range (.field price .schema) (.int 7) (.int 5) (.bool true) (.bool false)
        = .error (.input (.emptyRange "price" (.int 7) (.int 5)))
      ∧ ∃ c, range (.field price .schema) (.int 5) (.int 5) (.bool true) (.bool false) = .ok c := by
  have number : price.type = .number ∨ price.type = .date := .inl rfl
  have apart := (range_refused number (.int 7) (.int 5) .schema (.bool true) (.bool false)).1
  have pinched := (range_refused number (.int 5) (.int 5) .schema (.bool true) (.bool false)).2
  have above : (((5 : Int) : ℝ) : EReal) < ((7 : Int) : ℝ) := by
    rw [EReal.coe_lt_coe_iff]
    norm_num
  have short : (Value.int 7).isWritable = true ∧ (Value.int 5).isWritable = true := by
    rw [Value.isWritable_int, Value.isWritable_int]
    exact ⟨isShort_of_lt (by decide), isShort_of_lt (by decide)⟩
  have refused := (apart fun point => above.ne' point.eq).2
    (not_between_of_crossed ⟨_, _, rfl, rfl, above⟩)
  exact ⟨refused.1 short, (pinched (.point (.inr rfl))).1⟩

/-- Five is the only price between five and five, and it is excluded; the range is taken. -/
theorem range_pinched :
    (∃ c, range (.field price .schema) (.int 5) (.int 5) (.bool false) (.bool true) = .ok c)
      ∧ ¬ ∃ x, Between (some ((5 : Int) : ℝ)) (some ((5 : Int) : ℝ)) false true x :=
  ⟨⟨_, rfl⟩, not_between_of_pinched (.point (.inl rfl))⟩

end Condition

end TypedQuery
