import TypedQuery.Proofs.Query.Written

/-! # Conditions hold no arrow

In what is written for conditions every arrow head has a backslash before it, whatever the texts,
tags and numbers in them are. So the arrow behind the conditions is the first one of a query. -/

namespace TypedQuery
set_option autoImplicit false

/-! ## Escaped arrow heads -/

/-- Arrow heads stand behind a backslash only. -/
inductive Guarded : List Char → Prop
  | nil : Guarded []
  | plain {c : Char} {cs : List Char} : c ≠ '>' → Guarded cs → Guarded (c :: cs)
  | escaped {c : Char} {cs : List Char} : Guarded cs → Guarded ('\\' :: c :: cs)

variable {cs ds : List Char}

theorem Guarded.head (guarded : Guarded cs) : cs.head? ≠ some '>' := by
  cases guarded with
  | nil => simp
  | plain plain _ => simpa using plain
  | escaped _ => simp

theorem Guarded.append (front : Guarded cs) (back : Guarded ds) : Guarded (cs ++ ds) := by
  induction front with
  | nil => exact back
  | plain plain _ ih => exact .plain plain ih
  | escaped _ ih => exact .escaped ih

theorem guarded_plain (plain : '>' ∉ cs) : Guarded cs := by
  induction cs with
  | nil => exact .nil
  | cons c cs ih =>
    rw [List.mem_cons, not_or] at plain
    exact .plain (Ne.symm plain.1) (ih plain.2)

/-! ## Conditions -/

theorem Schema.Written.guarded {s : Schema} (written : s.Written cs) : Guarded cs := by
  induction written with
  | nil => exact .nil
  | plain plain _ ih =>
    refine .plain ?_ ih
    rintro rfl
    cases plain
  | escaped _ ih => exact .escaped ih
  | @name f _ _ _ ih =>
    have name : Guarded f.storeName.text.toList :=
      guarded_plain fun head => absurd (List.all_eq_true.1 f.storeName.all_plain _ head) (by decide)
    exact .plain (by decide) (name.append (.plain (by decide) ih))

/-! ## Cutting a query at its arrow -/

/-- What stands before the first arrow and what stands after it. -/
def cutAtArrow : List Char → Option (List Char × List Char)
  | [] => none
  | c :: rest =>
    if c = '=' ∧ rest.head? = some '>' then some ([], rest.tail)
    else (cutAtArrow rest).map fun cut => (c :: cut.1, cut.2)

theorem cutAtArrow_guarded {before : List Char} (guarded : Guarded before) (after : List Char) :
    cutAtArrow (before ++ '=' :: '>' :: after) = some (before, after) := by
  have noHead : ∀ {cs : List Char}, Guarded cs → (cs ++ '=' :: '>' :: after).head? ≠ some '>' := by
    intro cs guarded
    cases cs with
    | nil => simp
    | cons c cs => exact guarded.head
  induction guarded with
  | nil => rfl
  | @plain c cs _ rest ih =>
    rw [List.cons_append, cutAtArrow, if_neg fun arrow => noHead rest arrow.2, ih]
    rfl
  | @escaped c cs rest ih =>
    rw [List.cons_append, List.cons_append, cutAtArrow,
      if_neg fun arrow => absurd arrow.1 (by decide), cutAtArrow,
      if_neg fun arrow => noHead rest arrow.2, ih]
    rfl

end TypedQuery
