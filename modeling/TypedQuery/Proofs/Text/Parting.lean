import Mathlib.Data.List.Infix
import TypedQuery.Reply.Coercion

/-! # Texts joined and parted

A separator is looked for from the left, and separators do not overlap. What decides where a part ends
is the part with the separator behind it, so that parts which were found once are found again when they
are joined, even if some of them are left out. -/

namespace TypedQuery
set_option autoImplicit false

theorem joinTexts_toList (separator : String) (ts : List String) :
    (joinTexts separator ts).toList
      = List.intercalate separator.toList (ts.map String.toList) := by
  induction ts with
  | nil => rfl
  | cons t rest ih =>
    cases rest with
    | nil => simp [joinTexts]
    | cons u more =>
      rw [joinTexts, String.toList_append, String.toList_append, ih, List.map_cons, List.map_cons,
        List.map_cons, List.intercalate_cons_cons, List.append_assoc]

theorem map_ofList_toList (ts : List String) : (ts.map String.toList).map String.ofList = ts := by
  simp

theorem map_toList_ofList (css : List (List Char)) : (css.map String.ofList).map String.toList = css := by
  simp [Function.comp_def]

/-! ## Parts -/

/-- With the separator behind these characters, none starts within them. -/
def Precedes (separator front : List Char) : Prop :=
  ∀ tail, tail <:+ front → tail ≠ [] → ¬ separator <+: tail ++ separator

/-- The parts of characters between separators. -/
inductive Parted (separator : List Char) : List Char → List (List Char) → Prop
  | last {cs : List Char} : ¬ separator <:+: cs → Parted separator cs [cs]
  | cut {front cs : List Char} {parts : List (List Char)} : Precedes separator front →
    Parted separator cs parts → Parted separator (front ++ separator ++ cs) (front :: parts)

variable {separator front cs : List Char} {parts : List (List Char)}

theorem precedes_nil : Precedes separator [] := fun _ suffix ne => absurd (List.suffix_nil.1 suffix) ne

theorem Precedes.not_infix (ne : separator ≠ []) (h : Precedes separator front) :
    ¬ separator <:+: front := by
  rintro ⟨before, after, rfl⟩
  refine h (separator ++ after) ⟨before, (List.append_assoc ..).symm⟩ (by simp [ne]) ?_
  rw [List.append_assoc]
  exact List.prefix_append ..

/-- The first separator. -/
theorem exists_first (within : separator <:+: cs) :
    ∃ front rest, cs = front ++ separator ++ rest ∧ Precedes separator front := by
  induction cs with
  | nil =>
    rw [List.infix_nil.1 within]
    exact ⟨[], [], rfl, precedes_nil⟩
  | cons c cs ih =>
    by_cases here : separator <+: c :: cs
    · obtain ⟨rest, starts⟩ := here
      exact ⟨[], rest, starts.symm, precedes_nil⟩
    · obtain ⟨front, rest, rfl, first⟩ := ih ((List.infix_cons_iff.1 within).resolve_left here)
      refine ⟨c :: front, rest, rfl, fun tail suffix ne starts => ?_⟩
      rcases List.suffix_cons_iff.1 suffix with rfl | suffix
      · exact here (starts.trans ⟨rest, rfl⟩)
      · exact first tail suffix ne starts

theorem exists_parted (ne : separator ≠ []) (cs : List Char) : ∃ parts, Parted separator cs parts := by
  induction h : cs.length using Nat.strong_induction_on generalizing cs with
  | _ n ih =>
    by_cases within : separator <:+: cs
    · obtain ⟨front, rest, rfl, first⟩ := exists_first within
      have shorter : rest.length < n := by
        have := List.length_pos_iff.2 ne
        simp only [List.length_append] at h
        omega
      obtain ⟨parts, parted⟩ := ih _ shorter rest rfl
      exact ⟨_, .cut first parted⟩
    · exact ⟨_, .last within⟩

theorem Parted.not_infix (ne : separator ≠ []) (h : Parted separator cs parts) :
    ∀ part ∈ parts, ¬ separator <:+: part := by
  induction h with
  | last free => simpa using free
  | cut first _ ih => exact List.forall_mem_cons.2 ⟨first.not_infix ne, ih⟩

/-- Parts that are found are found again when only those that are not empty are joined. -/
theorem Parted.filled (ne : separator ≠ []) (h : Parted separator cs parts)
    (some : parts.filter (· ≠ []) ≠ []) :
    Parted separator (List.intercalate separator (parts.filter (· ≠ []))) (parts.filter (· ≠ [])) := by
  induction h with
  | @last cs free =>
    by_cases empty : cs = []
    · simp [empty] at some
    · rw [List.filter_cons_of_pos (by simpa using empty), List.filter_nil,
        List.intercalate_singleton]
      exact .last free
  | @cut front cs parts first _ ih =>
    by_cases empty : front = []
    · rw [List.filter_cons_of_neg (by simpa using empty)] at some ⊢
      exact ih some
    · rw [List.filter_cons_of_pos (by simpa using empty)]
      cases others : parts.filter (· ≠ []) with
      | nil =>
        rw [List.intercalate_singleton]
        exact .last (first.not_infix ne)
      | cons second more =>
        rw [others] at ih
        rw [List.intercalate_cons_cons]
        exact .cut first (ih (List.cons_ne_nil _ _))

/-- A separator of one character stands nowhere but between the parts that are joined. -/
theorem parted_intercalate {c : Char} (ne : parts ≠ []) (free : ∀ part ∈ parts, c ∉ part) :
    Parted [c] (List.intercalate [c] parts) parts := by
  induction parts with
  | nil => exact absurd rfl ne
  | cons front rest ih =>
    obtain ⟨first, others⟩ := List.forall_mem_cons.1 free
    cases rest with
    | nil =>
      rw [List.intercalate_singleton]
      exact .last fun within => first ((List.singleton_infix_iff _ _).1 within)
    | cons second more =>
      rw [List.intercalate_cons_cons]
      refine .cut (fun tail suffix filled starts => ?_) (ih (List.cons_ne_nil _ _) others)
      obtain ⟨d, tail, rfl⟩ := List.exists_cons_of_ne_nil filled
      have same : c = d := (List.cons_prefix_cons.1 starts).1
      exact first (suffix.subset (same ▸ List.mem_cons_self ..))

/-! ## Finding the parts -/

theorem splitChars_free (free : ¬ separator <:+: cs) (part : List Char) :
    splitChars separator part cs = [part.reverse ++ cs] := by
  induction cs generalizing part with
  | nil => simp [splitChars]
  | cons c cs ih =>
    rw [List.infix_cons_iff, not_or] at free
    rw [splitChars, dif_neg fun h => free.1 (List.isPrefixOf_iff_prefix.1 h.2), ih free.2]
    simp

theorem splitChars_front (ne : separator ≠ []) (first : Precedes separator front) (part : List Char) :
    splitChars separator part (front ++ separator ++ cs)
      = (part.reverse ++ front) :: splitChars separator [] cs := by
  induction front generalizing part with
  | nil =>
    obtain ⟨d, more, rfl⟩ := List.exists_cons_of_ne_nil ne
    rw [List.nil_append, List.cons_append, splitChars, dif_pos ⟨ne, by simp⟩, ← List.cons_append,
      List.drop_left, List.append_nil]
  | cons c front ih =>
    have later : ¬ separator <+: c :: (front ++ separator ++ cs) := by
      intro starts
      have whole : c :: front ++ separator <+: c :: (front ++ separator ++ cs) := ⟨cs, rfl⟩
      refine first _ List.suffix_rfl (List.cons_ne_nil _ _)
        (List.prefix_of_prefix_length_le starts whole ?_)
      rw [List.length_append]
      exact Nat.le_add_left ..
    have rest : Precedes separator front :=
      fun tail suffix => first tail (suffix.trans (List.suffix_cons ..))
    rw [List.cons_append, List.cons_append, splitChars,
      dif_neg fun h => later (List.isPrefixOf_iff_prefix.1 h.2), ih rest]
    simp

theorem Parted.splitChars_eq (ne : separator ≠ []) (h : Parted separator cs parts) :
    splitChars separator [] cs = parts := by
  induction h with
  | last free => exact splitChars_free free []
  | cut first _ ih => rw [splitChars_front ne first, ih, List.reverse_nil, List.nil_append]

end TypedQuery
