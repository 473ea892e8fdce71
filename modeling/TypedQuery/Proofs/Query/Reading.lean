import Mathlib.Data.List.Forall2
import TypedQuery.Proofs.Query.Reader

/-! # How written texts are read

What the reader does on the pieces that queries are written from: escaped text within a clause, a
column with its clause, items with joints between them, and items in parentheses. Each piece is read
the same way whatever groups are open around it, so that the lemmas compose like the texts. -/

namespace TypedQuery
set_option autoImplicit false

namespace Reader

/-! ## Running -/

theorem run_nil (p : Reader) : run p [] = some p := rfl

theorem run_cons (p : Reader) (c : Char) (cs : List Char) :
    run p (c :: cs) = (step p c).bind fun p => run p cs := rfl

theorem run_append (p : Reader) (cs ds : List Char) :
    run p (cs ++ ds) = (run p cs).bind fun p => run p ds := by
  simp only [run, List.foldlM_append]
  rfl

end Reader

open Reader

/-! ## Clauses -/

/-- Within a clause between `d`, the characters are read as the glyphs. -/
def Spells (d : Delimiter) (cs : List Char) (gs : List Glyph) : Prop :=
  ∀ column passed groups, run (.clause column d passed groups) cs
    = some (.clause column d (gs.reverse ++ passed) groups)

theorem Spells.append {d : Delimiter} {cs ds : List Char} {gs hs : List Glyph}
    (h : Spells d cs gs) (h' : Spells d ds hs) : Spells d (cs ++ ds) (gs ++ hs) := by
  intro column passed groups
  rw [run_append, h, Option.bind_some, h', List.reverse_append, List.append_assoc]

theorem textOf_map (cs : List Char) (escaped : Char → Bool) :
    textOf (cs.map fun c => ⟨c, escaped c⟩) = String.ofList cs := by
  simp [textOf, Function.comp_def]

/-! ## Items -/

/-- From where an item has to start, the characters are read as one item that means the query. -/
def IsItem (cs : List Char) (q : Query) : Prop :=
  ∀ groups, run (.start groups) cs = some (.ended q groups)

/-- Behind the opening of a group, the characters are read as members that together mean the
query. -/
def IsBody (cs : List Char) (q : Query) : Prop :=
  ∀ opening outer, ∃ last g,
    run (.start ({ opening := opening } :: outer)) cs = some (.ended last (g :: outer))
      ∧ g.opening = opening ∧ g.query last = q

theorem IsBody.negated {cs : List Char} {q : Query} (h : IsBody cs q) :
    IsItem ('-' :: '(' :: cs ++ [')']) (.negation q) := by
  intro groups
  obtain ⟨last, g, hrun, hopen, hquery⟩ := h .dash groups
  have inside : run (.start groups) ('-' :: '(' :: cs) = some (.ended last (g :: groups)) := by
    rw [run_cons]
    simp only [step, startItem, Char.reduceEq, if_true, if_false, Option.bind_some]
    rw [run_cons]
    simp only [step, if_true, Option.bind_some]
    exact hrun
  have closed : g.closed? last = some (.negation q) := by simp [Group.closed?, hopen, hquery]
  rw [run_append, inside, Option.bind_some]
  simp [run_cons, run_nil, step, close?, closed]

end TypedQuery
