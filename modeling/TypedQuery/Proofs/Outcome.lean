import Mathlib.Data.List.Forall2
import TypedQuery.Value.Access

/-! # Outcomes of computations that may fail

How a chain of steps succeeds: each step does, in turn. -/

namespace TypedQuery
set_option autoImplicit false

variable {ε ε' α β : Type}

@[simp] theorem ok_bind (a : α) (f : α → Except ε β) : (Except.ok a >>= f) = f a := rfl

@[simp] theorem error_bind (e : ε) (f : α → Except ε β) :
    (Except.error e >>= f) = Except.error e := rfl

@[simp] theorem pure_eq_ok (a : α) : (pure a : Except ε α) = .ok a := rfl

@[simp] theorem map_ok (f : α → β) (a : α) : f <$> (Except.ok a : Except ε α) = .ok (f a) := rfl

@[simp] theorem mapError_ok (f : ε → ε') (a : α) :
    (Except.ok a : Except ε α).mapError f = .ok a := rfl

@[simp] theorem mapError_error (f : ε → ε') (e : ε) :
    (Except.error e : Except ε α).mapError f = .error (f e) := rfl

theorem bind_eq_ok {x : Except ε α} {f : α → Except ε β} {b : β} :
    (x >>= f) = .ok b ↔ ∃ a, x = .ok a ∧ f a = .ok b := by
  cases x with
  | error e => simp
  | ok a => simp

theorem map_eq_ok {x : Except ε α} {f : α → β} {b : β} :
    f <$> x = .ok b ↔ ∃ a, x = .ok a ∧ f a = b := by
  cases x with
  | error e => simp
  | ok a => simp

theorem mapError_eq_ok {x : Except ε α} {f : ε → ε'} {a : α} :
    x.mapError f = .ok a ↔ x = .ok a := by
  cases x with
  | error e => simp
  | ok a => simp

theorem mapM_eq_ok {f : α → Except ε β} {as : List α} {bs : List β} :
    as.mapM f = .ok bs ↔ List.Forall₂ (fun a b => f a = .ok b) as bs := by
  induction as generalizing bs with
  | nil => simp [eq_comm]
  | cons a as ih =>
    simp only [List.mapM_cons, bind_eq_ok, pure_eq_ok, List.forall₂_cons_left_iff]
    constructor
    · rintro ⟨b, hb, bs', hbs, e⟩
      cases e
      exact ⟨b, bs', hb, ih.1 hbs, rfl⟩
    · rintro ⟨b, bs', hb, hbs, rfl⟩
      exact ⟨b, hb, bs', ih.2 hbs, rfl⟩

/-- A list of steps fails with the error of the first step that fails. -/
theorem mapM_eq_error {f : α → Except ε β} {as : List α} {e : ε} :
    as.mapM f = .error e ↔ ∃ before a after, as = before ++ a :: after
      ∧ (∀ b ∈ before, ∃ r, f b = .ok r) ∧ f a = .error e := by
  induction as with
  | nil => simp
  | cons a as ih =>
    rw [List.mapM_cons]
    cases first : f a with
    | error e' =>
      rw [error_bind, Except.error.injEq]
      constructor
      · rintro rfl
        exact ⟨[], a, as, rfl, by simp, first⟩
      · rintro ⟨before, a', after, split, passed, failed⟩
        cases before with
        | nil =>
          cases split
          rw [first] at failed
          exact Except.error.inj failed
        | cons b before =>
          cases split
          obtain ⟨r, hr⟩ := passed a (List.mem_cons_self ..)
          rw [first] at hr
          cases hr
    | ok r =>
      have rest : (do let bs ← as.mapM f; pure (r :: bs)) = .error e ↔ as.mapM f = .error e := by
        cases as.mapM f <;> simp
      rw [ok_bind, rest, ih]
      constructor
      · rintro ⟨before, a', after, rfl, passed, failed⟩
        refine ⟨a :: before, a', after, rfl, ?_, failed⟩
        exact List.forall_mem_cons.2 ⟨⟨r, first⟩, passed⟩
      · rintro ⟨before, a', after, split, passed, failed⟩
        cases before with
        | nil =>
          cases split
          rw [first] at failed
          cases failed
        | cons b before =>
          cases split
          exact ⟨before, a', after, rfl, fun c hc => passed c (List.mem_cons_of_mem _ hc), failed⟩

theorem mapM_ok_of_forall {f : α → Except ε β} {R : α → β → Prop} {as : List α}
    (each : ∀ a ∈ as, ∃ b, f a = .ok b ∧ R a b) :
    ∃ bs, as.mapM f = .ok bs ∧ List.Forall₂ R as bs := by
  induction as with
  | nil => exact ⟨[], rfl, .nil⟩
  | cons a as ih =>
    obtain ⟨b, hb, first⟩ := each a (List.mem_cons_self ..)
    obtain ⟨bs, hbs, rest⟩ := ih fun a' ha => each a' (List.mem_cons_of_mem _ ha)
    exact ⟨b :: bs, by rw [List.mapM_cons, hb, ok_bind, hbs]; rfl, .cons first rest⟩

theorem mapM_congr₂ {γ : Type} {f : α → Except ε γ} {g : β → Except ε γ} {as : List α} {bs : List β}
    (each : List.Forall₂ (fun a b => f a = g b) as bs) : as.mapM f = bs.mapM g := by
  induction each with
  | nil => rfl
  | cons first _ ih => rw [List.mapM_cons, List.mapM_cons, first, ih]

theorem exists_right_of_mem {R : α → β → Prop} {as : List α} {bs : List β}
    (h : List.Forall₂ R as bs) {a : α} (ha : a ∈ as) : ∃ b ∈ bs, R a b := by
  induction h with
  | nil => cases ha
  | @cons a' b as bs first rest ih =>
    rcases List.mem_cons.1 ha with rfl | ha
    · exact ⟨b, List.mem_cons_self .., first⟩
    · obtain ⟨b', hb, hr⟩ := ih ha
      exact ⟨b', List.mem_cons_of_mem _ hb, hr⟩

theorem exists_left_of_mem {R : α → β → Prop} {as : List α} {bs : List β}
    (h : List.Forall₂ R as bs) {b : β} (hb : b ∈ bs) : ∃ a ∈ as, R a b :=
  exists_right_of_mem (R := fun b a => R a b) h.flip hb

/-! ## Reasons of failure -/

/-- The computation gives a result of this kind, or it fails with an error for which there is this
reason. -/
inductive Decides (reason : ε → Prop) (spec : α → Prop) : Except ε α → Prop
  | ok {a : α} : spec a → Decides reason spec (.ok a)
  | refused {e : ε} : reason e → Decides reason spec (.error e)

namespace Decides

variable {reason cause : ε → Prop} {spec : α → Prop} {spec' : β → Prop} {x : Except ε α}

theorem bind {f : α → Except ε β} (h : Decides reason spec x)
    (next : ∀ a, spec a → Decides reason spec' (f a)) : Decides reason spec' (x >>= f) := by
  cases h with
  | ok ha => exact next _ ha
  | refused why => exact .refused why

theorem map {g : α → β} (h : Decides reason spec x) (kept : ∀ a, spec a → spec' (g a)) :
    Decides reason spec' (x >>= fun a => .ok (g a)) :=
  h.bind fun a ha => .ok (kept a ha)

theorem mono {spec' : α → Prop} (h : Decides reason spec x) (why : ∀ e, reason e → cause e)
    (what : ∀ a, spec a → spec' a) : Decides cause spec' x := by
  cases h with
  | ok ha => exact .ok (what _ ha)
  | refused hr => exact .refused (why _ hr)

theorem because (h : Decides reason spec x) (why : ∀ e, reason e → cause e) :
    Decides cause spec x :=
  h.mono why fun _ ha => ha

theorem mapError {f : ε → ε'} {cause : ε' → Prop} (h : Decides reason spec x)
    (why : ∀ e, reason e → cause (f e)) : Decides cause spec (x.mapError f) := by
  cases h with
  | ok ha => exact .ok ha
  | refused hr => exact .refused (why _ hr)

theorem of_ok (h : Decides reason spec x) {a : α} (ok : x = .ok a) : spec a := by
  cases h with
  | ok ha =>
    cases ok
    exact ha
  | refused => cases ok

theorem of_error (h : Decides reason spec x) {e : ε} (failed : x = .error e) : reason e := by
  cases h with
  | ok => cases failed
  | refused why =>
    cases failed
    exact why

/-- Without a reason to fail there is a result. -/
theorem exists_ok (h : Decides reason spec x) (none : ∀ e, ¬ reason e) :
    ∃ a, x = .ok a ∧ spec a := by
  cases h with
  | ok ha => exact ⟨_, rfl, ha⟩
  | refused why => exact absurd why (none _)

end Decides

/-- A list of steps fails for the first of them that does. -/
theorem decides_mapM {reason : α → ε → Prop} {R : α → β → Prop} {f : α → Except ε β} {as : List α}
    (each : ∀ a ∈ as, Decides (reason a) (R a) (f a)) :
    Decides (fun e => ∃ a ∈ as, reason a e) (List.Forall₂ R as) (as.mapM f) := by
  induction as with
  | nil => exact .ok .nil
  | cons a as ih =>
    have first : Decides (fun e => ∃ a' ∈ a :: as, reason a' e) (R a) (f a) :=
      (each a (List.mem_cons_self ..)).because fun _ why => ⟨a, List.mem_cons_self .., why⟩
    have rest : Decides (fun e => ∃ a' ∈ a :: as, reason a' e) (List.Forall₂ R as) (as.mapM f) :=
      (ih fun a' later => each a' (List.mem_cons_of_mem _ later)).because
        fun _ ⟨a', later, why⟩ => ⟨a', List.mem_cons_of_mem _ later, why⟩
    rw [List.mapM_cons]
    exact first.bind fun b done => rest.bind fun bs others => .ok (.cons done others)

/-! ## Kinds of failure -/

variable {fault : ε → Prop}

/-- Where the computation fails, it fails with such an error. -/
def FailsOnly (fault : ε → Prop) (x : Except ε α) : Prop := ∀ e, x = .error e → fault e

theorem failsOnly_ok {a : α} : FailsOnly fault (.ok a) := by
  intro e h
  cases h

theorem failsOnly_error {e : ε} (h : fault e) : FailsOnly fault (.error e : Except ε α) := by
  intro e' same
  cases same
  exact h

theorem FailsOnly.bind {x : Except ε α} {f : α → Except ε β} (h : FailsOnly fault x)
    (next : ∀ a, x = .ok a → FailsOnly fault (f a)) : FailsOnly fault (x >>= f) := by
  cases x with
  | error e => exact failsOnly_error (h e rfl)
  | ok a => exact next a rfl

theorem failsOnly_mapError {x : Except ε' α} {f : ε' → ε} (each : ∀ e, fault (f e)) :
    FailsOnly fault (x.mapError f) := by
  cases x with
  | error e => exact failsOnly_error (each e)
  | ok a => exact failsOnly_ok

theorem failsOnly_mapM {f : α → Except ε β} {as : List α}
    (each : ∀ a ∈ as, FailsOnly fault (f a)) : FailsOnly fault (as.mapM f) := by
  intro e h
  obtain ⟨before, a, after, rfl, _, failed⟩ := mapM_eq_error.1 h
  exact each a (by simp) e failed

end TypedQuery
