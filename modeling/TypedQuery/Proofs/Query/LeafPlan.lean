import TypedQuery.Proofs.Calendar.DayNumbers
import TypedQuery.Proofs.Number.Pattern
import TypedQuery.Proofs.Query.Expressible

/-! # What becomes of a built leaf

A builder checks its arguments, and the compiler writes what the leaf holds. A leaf that was built
has a plan, unless a missing number came through the builder, as a date or as the radius of a circle,
or an integer came through that is too long to be written. -/

namespace TypedQuery
set_option autoImplicit false

/-! ## Rounding -/

theorem Double.isNotANumber_ofInt? {n : Int} {x : Double} (h : ofInt? n = some x) :
    x.isNotANumber = false := by
  unfold ofInt? at h
  dsimp only at h
  split at h
  · cases h
    exact isNotANumber_ofFraction ..
  · cases h

theorem secondsOf_present (micros : Int) : (Value.ofNumeral (secondsOf micros)).isMissing = false := by
  unfold secondsOf
  dsimp only
  split
  · rfl
  · exact Double.isNotANumber_ofFraction ..

/-! ## Numbers taken by builders -/

variable {f : Field}

theorem toEpoch_missing {v : Value} {n : Numeral} (h : toEpoch v = .ok n) :
    (Value.ofNumeral n).isMissing = v.isMissing := by
  cases v with
  | int m =>
    cases h
    rfl
  | double x =>
    cases h
    rfl
  | text s =>
    simp only [toEpoch] at h
    split at h
    · cases h
      exact secondsOf_present _
    · cases h
  | dateTime t =>
    cases h
    exact secondsOf_present _
  | date d =>
    cases h
    rfl
  | _ => cases h

theorem toEpoch_writable {v : Value} {n : Numeral} (h : toEpoch v = .ok n) :
    (Value.ofNumeral n).isWritable = v.isWritable := by
  cases v with
  | int m =>
    cases h
    rfl
  | double x =>
    cases h
    rfl
  | text s =>
    simp only [toEpoch] at h
    split at h
    · cases h
      exact isWritable_secondsOf _
    · cases h
  | dateTime t =>
    cases h
    exact isWritable_secondsOf _
  | date d =>
    cases h
    have near := d.number_lt
    exact (Value.isWritable_int _).trans (isShort_of_lt (by rw [Date.epochNumber]; omega))
  | _ => cases h

namespace Value

variable {v : Value}

theorem toDouble_missing {n : Numeral} {x : Double} (number : v.numeral? = some n)
    (h : v.toDouble = .ok x) : x.isNotANumber = v.isMissing := by
  have nearest : n.toDouble? = some x := by
    cases v <;> cases number <;> simp only [toDouble, numeral?] at h
    all_goals
      split at h
      · cases h
        assumption
      · cases h
  cases v with
  | bool b =>
    cases number
    exact Double.isNotANumber_ofInt? nearest
  | int k =>
    cases number
    exact Double.isNotANumber_ofInt? nearest
  | double y =>
    cases number
    cases nearest
    rfl
  | _ => cases number

theorem within_present {lowest highest : Numeral} (h : v.within lowest highest = .ok true) :
    v.isMissing = false := by
  cases v with
  | double x =>
    by_contra missing
    -- nothing is ordered against a missing number, so it lies in no interval
    have unordered : (Numeral.double x).extended = .unordered := by
      have datum : x.datum = .notANumber := by simpa [isMissing, Double.isNotANumber] using missing
      rw [Numeral.extended, datum]
    have above : lowest.le (.double x) = false := by
      rw [Numeral.le, unordered]
      cases lowest.extended <;> rfl
    simp [within, numeral?, above] at h
  | _ => rfl

theorem numeral?_of_within {lowest highest : Numeral} {inside : Bool}
    (h : v.within lowest highest = .ok inside) : ∃ n, v.numeral? = some n := by
  unfold within at h
  split at h
  · exact ⟨_, by assumption⟩
  · cases h

theorem numeral?_of_lessThan {bound : Numeral} {below : Bool}
    (h : v.lessThan bound = .ok below) : ∃ n, v.numeral? = some n := by
  unfold lessThan at h
  split at h
  · exact ⟨_, by assumption⟩
  · cases h

end Value

namespace Condition

theorem requireNumber_present {v : Value} {n : Numeral} (h : requireNumber f v = .ok n) :
    (Value.ofNumeral n).isMissing = false := by
  unfold requireNumber at h
  split at h
  · cases h
  · split at h
    · cases h
    · rename_i present
      cases h
      simpa [Value.ofNumeral, Value.isMissing] using present
  · rename_i n' double _
    cases h
    cases n with
    | int n => rfl
    | double x => exact absurd rfl (double x)

theorem requireNumber_writable {v : Value} {n : Numeral} (h : requireNumber f v = .ok n) :
    (Value.ofNumeral n).isWritable = v.isWritable := by
  have same : v = .ofNumeral n := by
    unfold requireNumber at h
    cases v with
    | int m =>
      cases h
      rfl
    | double x =>
      dsimp only [Value.number?] at h
      split at h
      · cases h
      · cases h
        rfl
    | _ => cases h
  rw [same]

theorem boundOf_writable {v : Value} {n : Option Numeral} (h : boundOf f v = .ok n) :
    (boundValue n).isWritable = v.isWritable := by
  unfold boundOf at h
  split at h
  · cases h
    rfl
  · obtain ⟨n, hn, rfl⟩ := map_eq_ok.1 h
    split at hn
    · exact toEpoch_writable hn
    · exact requireNumber_writable hn

theorem equalValue_writable {v w : Value} (h : equalValue f v = .ok w) :
    w.isWritable = v.isWritable := by
  unfold equalValue at h
  split at h
  · split at h
    · cases h
      rfl
    · cases h
  · obtain ⟨n, hn, rfl⟩ := map_eq_ok.1 h
    exact requireNumber_writable (mapError_eq_ok.1 hn)
  · obtain ⟨n, hn, rfl⟩ := map_eq_ok.1 h
    exact toEpoch_writable (mapError_eq_ok.1 hn)
  · split at h
    · split at h
      · cases h
      · cases h
        rfl
    · split at h
      · -- a number that is written out as a tag was one that could be
        rename_i n number
        obtain ⟨t, shown, rfl⟩ := map_eq_ok.1 h
        have same : v = .ofNumeral n := by cases v <;> cases number <;> rfl
        rw [same, Value.isWritable_text, Value.isWritable, Value.display_eq_ok.1 shown]
        rfl
      · cases h
  · split at h
    · split at h
      · cases h
      · cases h
        rfl
    · cases h

theorem boundOf_missing {v : Value} {n : Option Numeral} (h : boundOf f v = .ok n) :
    (boundValue n).isMissing = true ↔ f.type = .date ∧ v.isMissing = true := by
  unfold boundOf at h
  split at h
  · cases h
    simp [boundValue, Value.isMissing]
  · obtain ⟨n, hn, rfl⟩ := map_eq_ok.1 h
    split at hn
    · rename_i date
      rw [boundValue, toEpoch_missing hn, and_iff_right date]
    · rename_i other
      simp [boundValue, requireNumber_present hn, other]

theorem equalValue_missing {v w : Value} (h : equalValue f v = .ok w) :
    w.isMissing = true ↔ f.type = .date ∧ v.isMissing = true := by
  unfold equalValue at h
  split at h
  case h_1 boolean =>
    split at h
    · cases h
      simp [Value.isMissing]
    · cases h
  case h_2 number =>
    obtain ⟨n, hn, rfl⟩ := map_eq_ok.1 h
    simp [requireNumber_present (mapError_eq_ok.1 hn), number]
  case h_3 date =>
    obtain ⟨n, hn, rfl⟩ := map_eq_ok.1 h
    rw [toEpoch_missing (mapError_eq_ok.1 hn), and_iff_right date]
  case h_4 tag =>
    split at h
    · split at h
      · cases h
      · cases h
        simp [Value.isMissing]
    · split at h
      · obtain ⟨_, _, rfl⟩ := map_eq_ok.1 h
        simp [Value.isMissing, tag]
      · cases h
  case h_5 =>
    split at h
    · split at h
      · cases h
      · cases h
        simp [Value.isMissing]
    · cases h

end Condition

/-! ## Builders -/

/-- A builder with its arguments. -/
inductive Builder
  | equals (value : Value)
  | range (minimum maximum minInclusive maxInclusive : Value)
  | contains (value : Value)
  | containsAny (values : Value)
  | terms (pattern exact : Value)
  | within (longitude latitude radius unit : Value)
  | nearest (k vector scoreAlias : Value)

namespace Builder

/-- The leaf that a builder makes of a target, or why it makes none. -/
def make (target : Target) : Builder → Result Condition
  | .equals value => Condition.equals target value
  | .range minimum maximum minInclusive maxInclusive =>
    Condition.range target minimum maximum minInclusive maxInclusive
  | .contains value => Condition.contains target value
  | .containsAny values => Condition.containsAny target values
  | .terms pattern exact => Condition.terms target pattern exact
  | .within longitude latitude radius unit => Condition.within target longitude latitude radius unit
  | .nearest k vector scoreAlias => Condition.nearest target k vector scoreAlias

/-- The missing numbers that pass a builder: dates, and the radius of a circle. -/
def PassesMissing (f : Field) : Builder → Prop
  | .equals value => f.type = .date ∧ value.isMissing = true
  | .range minimum maximum _ _ => f.type = .date ∧ (minimum.isMissing = true ∨ maximum.isMissing = true)
  | .within _ _ radius _ => radius.isMissing = true
  | _ => False

/-- The values that pass a builder and are too long to be written: numbers and days that are compared
with, bounds, and the name of a distance column. -/
def PassesOverlong : Builder → Prop
  | .equals value => value.isWritable = false
  | .range minimum maximum _ _ => minimum.isWritable = false ∨ maximum.isWritable = false
  | .nearest _ _ scoreAlias => scoreAlias.isWritable = false
  | _ => False

variable {s : Schema} {b : Builder} {c : Condition} {origin : Origin}

theorem built (declared : f ∈ s.fields) (made : b.make (.field f .schema) = .ok c) : c.Built s := by
  cases b with
  | equals => exact .equals declared made
  | range => exact .range declared made
  | contains => exact .contains declared made
  | containsAny => exact .containsAny declared made
  | terms => exact .terms declared made
  | within => exact .within declared made
  | nearest => exact .nearest declared made

/-- A leaf holds a missing number just when one passed its builder. -/
theorem passesMissing_iff (made : b.make (.field f origin) = .ok c) :
    b.PassesMissing f ↔ ∃ v ∈ c.numbers, v.isMissing = true := by
  cases b with
  | equals value =>
    obtain ⟨_, w, hw, rfl⟩ := Condition.equals_eq_ok made
    simp [PassesMissing, Condition.numbers, Predicate.numbers, Condition.equalValue_missing hw]
  | range minimum maximum =>
    obtain ⟨_, lower, upper, hl, hu, rfl⟩ := Condition.range_eq_ok made
    simp [PassesMissing, Condition.numbers, Predicate.numbers, Condition.boundOf_missing hl,
      Condition.boundOf_missing hu, and_or_left]
  | contains value =>
    have listed : Condition.containsAny (.field f origin) (.list [value]) = .ok c := made
    obtain ⟨_, tags, _, _, rfl⟩ := Condition.containsAny_eq_ok listed
    simp [PassesMissing, Condition.numbers, Predicate.numbers]
  | containsAny values =>
    obtain ⟨_, tags, _, _, rfl⟩ := Condition.containsAny_eq_ok made
    simp [PassesMissing, Condition.numbers, Predicate.numbers]
  | terms pattern exact =>
    obtain ⟨_, t, _, rfl⟩ := Condition.terms_eq_ok made
    simp [PassesMissing, Condition.numbers, Predicate.numbers]
  | within longitude latitude radius unit =>
    obtain ⟨_, x, y, r, label, _, ⟨west, hx⟩, ⟨north, hy⟩, ⟨around, hr⟩, rfl⟩ :=
      Condition.within_eq_ok made
    -- the bounds of longitude and latitude stop a missing number, that of the radius does not
    obtain ⟨_, first⟩ := Value.numeral?_of_within west
    obtain ⟨_, second⟩ := Value.numeral?_of_within north
    obtain ⟨_, third⟩ := Value.numeral?_of_lessThan around
    have west_present : (Value.double x).isMissing = false :=
      (Value.toDouble_missing first hx).trans (Value.within_present west)
    have north_present : (Value.double y).isMissing = false :=
      (Value.toDouble_missing second hy).trans (Value.within_present north)
    have around_missing : (Value.double r).isMissing = radius.isMissing :=
      Value.toDouble_missing third hr
    simp [PassesMissing, Condition.numbers, Predicate.numbers, west_present, north_present,
      around_missing]
  | nearest k vector scoreAlias =>
    obtain ⟨_, n, b, _, _, _, rfl⟩ := Condition.nearest_eq_ok made
    simp [PassesMissing, Condition.numbers, Predicate.numbers]

/-- A leaf holds what cannot be written just when it passed its builder. -/
theorem passesOverlong_iff (made : b.make (.field f origin) = .ok c) :
    b.PassesOverlong ↔ ¬ c.Writable := by
  cases b with
  | equals value =>
    obtain ⟨_, w, hw, rfl⟩ := Condition.equals_eq_ok made
    simp [PassesOverlong, Condition.Writable, Condition.spelled, Predicate.spelled,
      Predicate.numbers, Condition.equalValue_writable hw]
  | range minimum maximum =>
    obtain ⟨_, lower, upper, hl, hu, rfl⟩ := Condition.range_eq_ok made
    rw [PassesOverlong, ← Condition.boundOf_writable hl, ← Condition.boundOf_writable hu]
    simp only [Condition.Writable, Condition.spelled, Predicate.spelled, Predicate.numbers,
      List.mem_cons, List.not_mem_nil, or_false, forall_eq_or_imp, forall_eq, not_and_or,
      Bool.not_eq_true]
  | contains value =>
    have listed : Condition.containsAny (.field f origin) (.list [value]) = .ok c := made
    obtain ⟨_, tags, _, _, rfl⟩ := Condition.containsAny_eq_ok listed
    simp [PassesOverlong, Condition.Writable, Condition.spelled, Predicate.spelled, Predicate.numbers]
  | containsAny values =>
    obtain ⟨_, tags, _, _, rfl⟩ := Condition.containsAny_eq_ok made
    simp [PassesOverlong, Condition.Writable, Condition.spelled, Predicate.spelled, Predicate.numbers]
  | terms pattern exact =>
    obtain ⟨_, t, _, rfl⟩ := Condition.terms_eq_ok made
    simp [PassesOverlong, Condition.Writable, Condition.spelled, Predicate.spelled, Predicate.numbers]
  | within longitude latitude radius unit =>
    obtain ⟨_, x, y, r, label, _, _, _, _, rfl⟩ := Condition.within_eq_ok made
    simp [PassesOverlong, Condition.Writable, Condition.spelled, Predicate.spelled, Predicate.numbers]
  | nearest k vector scoreAlias =>
    obtain ⟨_, n, b, _, _, _, rfl⟩ := Condition.nearest_eq_ok made
    simp [PassesOverlong, Condition.Writable, Condition.spelled, Predicate.spelled]

end Builder

/-! ## Plans of leaves -/

namespace Compiler

open Condition Schema

variable {s : Schema}

/-- Why a built leaf has no plan: a number is missing, or what it holds cannot be written. -/
inductive Failed (l : Condition) : Error → Prop
  | missing : (∃ v ∈ l.numbers, v.isMissing = true) → Failed l (.query .missingNumber)
  | overlong : ¬ l.Writable → Failed l (.misuse .badValue)

/-- A built leaf has a plan unless a number in it is missing or what it holds cannot be written. -/
theorem compile_leaf_decides {l : Condition} (built : l.Built s) :
    Decides (Failed l) (fun _ => (∀ v ∈ l.numbers, v.isMissing = false) ∧ l.Writable)
      ((Compiler.mk s {}).compile l {}) := by
  obtain ⟨f, p, declared, rfl, made⟩ := built.wellMade
  cases near : (leaf (.field f .schema) p).isNearest with
  | true =>
    obtain ⟨_, k, vector, scoreAlias, e⟩ := isNearest_eq_true near
    cases e
    have sound : Sound s (leaf (.field f .schema) (.nearest k vector scoreAlias)) :=
      ⟨built, by simp [numbers, Predicate.numbers]⟩
    refine (compile_decides_default (madeOf_leaf.2 sound)).mono (fun e why => ?_) fun _ planned => ?_
    · cases why with
      | query inexpressible => exact absurd (expressible_leaf _ _) inexpressible
      | overlong long => exact .overlong (by simpa using long)
    · exact ⟨sound.2, by simpa using planned.writable⟩
  | false =>
    have none : (leaf (.field f .schema) p).nearestLeaves = [] := by simp [nearestLeaves, near]
    have same := spelled_of_plain near
    have asked : (Compiler.mk s {}).question (leaf (.field f .schema) p) = (do
        let clause ← p.clause s f
        return ⟨"@" ++ f.storeName.text ++ ":" ++ clause, [], [], .none⟩) := by
      rw [question, nearestClause?_of_none none]
      simp only [conditionText, isEmpty_leaf, emit, ok_bind,
        leafText_of_wellMade declared made near]
      cases p.clause s f <;> rfl
    cases written : p.clause s f with
    | ok clause =>
      have said := (clause_decides made near).of_ok written
      rw [written] at asked
      obtain ⟨plan, compiled⟩ := compile_of_question asked
      rw [compiled]
      exact .ok ⟨fun v hv => (said v hv).present, fun v hv => (said v (same ▸ hv)).writable⟩
    | error e =>
      obtain ⟨v, hv, why⟩ := (clause_decides made near).of_error written
      rw [compile, asked, written]
      cases why with
      | missing lost => exact .refused (.missing ⟨v, hv, lost⟩)
      | overlong long => exact .refused (.overlong (not_writable (same ▸ hv) long))

/-- A leaf that a builder makes of a declared field has a plan just when the builder let no missing
number pass and nothing that cannot be written; and it holds no missing number just when none passed.
Otherwise the query is refused for the number that is missing, or fails because it cannot be
written. -/
theorem compile_made (s : Schema) {f : Field} (declared : f ∈ s.fields) (b : Builder) {c : Condition}
    (made : b.make (.field f .schema) = .ok c) :
    ((∃ plan, (Compiler.mk s {}).compile c {} = .ok plan) ↔ ¬ b.PassesMissing f ∧ ¬ b.PassesOverlong)
      ∧ ((∀ v ∈ c.numbers, v.isMissing = false) ↔ ¬ b.PassesMissing f)
      ∧ ∀ e, (Compiler.mk s {}).compile c {} = .error e →
        (b.PassesMissing f ∧ e = .query .missingNumber)
          ∨ (b.PassesOverlong ∧ e = .misuse .badValue) := by
  have decided := compile_leaf_decides (b.built declared made)
  have present : (∀ v ∈ c.numbers, v.isMissing = false) ↔ ¬ b.PassesMissing f := by
    rw [Builder.passesMissing_iff made]
    simp
  have writable : c.Writable ↔ ¬ b.PassesOverlong := by
    rw [Builder.passesOverlong_iff made, not_not]
  refine ⟨⟨?_, ?_⟩, present, fun e failed => ?_⟩
  · rintro ⟨plan, compiled⟩
    have fine := decided.of_ok compiled
    exact ⟨present.1 fine.1, writable.1 fine.2⟩
  · rintro ⟨noneMissing, noneLong⟩
    obtain ⟨plan, compiled, _⟩ := decided.exists_ok fun e why => by
      cases why with
      | missing lost => exact noneMissing ((Builder.passesMissing_iff made).2 lost)
      | overlong long => exact noneLong ((Builder.passesOverlong_iff made).2 long)
    exact ⟨plan, compiled⟩
  · cases decided.of_error failed with
    | missing lost => exact .inl ⟨(Builder.passesMissing_iff made).2 lost, rfl⟩
    | overlong long => exact .inr ⟨(Builder.passesOverlong_iff made).2 long, rfl⟩

end Compiler

/-! ## Products with a date -/

namespace Products

def released : Field where
  name := ⟨"released", by decide⟩
  kind := .date
  storeName := ⟨"released", by decide⟩
  sortable := .bool false
  separator := .text "|"
  multi := .bool false

def dated : Schema where
  entityName := .text "Product"
  fields := [released]
  keyPrefix := "Product:"
  indexName := .text "Product:index"
  storage := .hash
  names_nodup := by decide
  storeNames_nodup := by decide
  keyPrefix_ne := schema.keyPrefix_ne

end Products

namespace Compiler

theorem compile_made_released :
    (∃ c plan, (Builder.equals (.int 0)).make (.field Products.released .schema) = .ok c
        ∧ (Compiler.mk Products.dated {}).compile c {} = .ok plan)
      ∧ ∃ c, (Builder.equals (.double .notANumber)).make (.field Products.released .schema) = .ok c
        ∧ (Compiler.mk Products.dated {}).compile c {} = .error (.query .missingNumber) := by
  have declared : Products.released ∈ Products.dated.fields := List.mem_singleton_self _
  constructor
  · have made : (Builder.equals (.int 0)).make (.field Products.released .schema)
        = .ok (.leaf (.field Products.released .schema) (.equals (.int 0))) := rfl
    have present : ¬ (Builder.equals (.int 0)).PassesMissing Products.released := by
      simp [Builder.PassesMissing, Value.isMissing]
    have short : ¬ (Builder.equals (.int 0)).PassesOverlong := by
      rw [Builder.PassesOverlong, Value.isWritable_int, isShort_of_lt (by decide)]
      exact Bool.false_ne_true.symm
    obtain ⟨plan, compiled⟩ := (compile_made Products.dated declared _ made).1.2 ⟨present, short⟩
    exact ⟨_, plan, made, compiled⟩
  · have made : (Builder.equals (.double .notANumber)).make (.field Products.released .schema)
        = .ok (.leaf (.field Products.released .schema) (.equals (.double .notANumber))) := rfl
    have passes : (Builder.equals (.double .notANumber)).PassesMissing Products.released :=
      ⟨rfl, by decide⟩
    obtain ⟨planned, _, failed⟩ := compile_made Products.dated declared _ made
    refine ⟨_, made, ?_⟩
    cases outcome : (Compiler.mk Products.dated {}).compile
        (.leaf (.field Products.released .schema) (.equals (.double .notANumber))) {} with
    | ok plan => exact absurd passes (planned.1 ⟨plan, outcome⟩).1
    | error e =>
      rcases failed e outcome with ⟨_, rfl⟩ | ⟨long, _⟩
      · rfl
      · cases long

/-- A missing number is taken for a date, and the leaf has no plan. -/
theorem released_at_missing :
    ∃ c, Condition.equals (.field Products.released .schema) (.double .notANumber) = .ok c
      ∧ (∃ v ∈ c.numbers, v.isMissing = true)
      ∧ ∀ plan, (Compiler.mk Products.dated {}).compile c {} ≠ .ok plan := by
  refine ⟨_, rfl, ⟨_, List.mem_cons_self .., by decide⟩, ?_⟩
  intro plan compiled
  cases compiled

end Compiler

end TypedQuery
