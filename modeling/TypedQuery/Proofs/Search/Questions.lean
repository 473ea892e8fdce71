import TypedQuery.Proofs.Search.Paging
import TypedQuery.Proofs.Search.Reached

/-! # One question, asked in many ways

There are many ways to ask a search, and all of them put the same question: the index, the query, its
parameters and the dialect are those of the conditions alone. The way of asking decides about the
columns, the sorting and the window, and about nothing else. -/

namespace TypedQuery
set_option autoImplicit false

/-! ## Ways of asking -/

/-- How a search is asked: for keys alone or for records, sorted so, and for this window. -/
structure Asking where
  keysOnly : Bool
  sorting : Option (Value × Direction)
  window : Option Window

def Asking.options (asking : Asking) : SearchOptions where
  offset := (asking.window.map Window.offset).getD (.int 0)
  count := (asking.window.map Window.size).getD .null
  sortBy := (asking.sorting.map Prod.fst).getD .null
  sortDirection := .text ((asking.sorting.map fun sort => sort.2.label).getD "ASC")
  returnFields := if asking.keysOnly then .tuple [] else .null

/-- What a sorting becomes. The name of the distance stands for itself, and that of a field for its
store name. Where none is asked for, nearer records come first. -/
inductive Schema.Sorts (s : Schema) (distance : List Value) :
    Option (Value × Direction) → Option SortClause → Prop
  | distance {name : Value} {direction : Direction} :
    name ≠ .null → name.isAmong distance = true →
    Sorts s distance (some (name, direction)) (some ⟨name, direction.word⟩)
  | field {f : Field} {direction : Direction} :
    f ∈ s.fields → (Value.text f.name.text).isAmong distance = false →
    Sorts s distance (some (.text f.name.text, direction))
      (some ⟨.text f.storeName.text, direction.word⟩)
  | unasked {sorting : Option (Value × Direction)} :
    (∀ name direction, sorting = some (name, direction) → name = .null) →
    Sorts s distance sorting (distance.head?.map fun column => ⟨column, Direction.ascending.word⟩)

namespace Search

/-- The distance column of the nearest neighbours of a search, and the window they call for. -/
inductive Neighbours (s : Search) : List Value → Option Window → Prop
  | none : s.nearest = none → Neighbours s [] none
  | some {f : Field} {origin : Origin} {k vector scoreAlias column : Value} :
    s.nearest = some (.leaf (.field f origin) (.nearest k vector scoreAlias)) →
    s.compiler.scoreColumn ⟨f, k, vector, scoreAlias⟩ = .ok column →
    Neighbours s [column] (some ⟨.int 0, k⟩)

/-- The call puts the question of the search: its plan, but for the columns, the sorting and the
window. -/
def Puts (s : Search) (asking : Asking) (call : Call) : Prop :=
  ∃ plan distance window sort, s.compiler.compile s.conditions {} = .ok plan
    ∧ s.Neighbours distance window ∧ s.schema.Sorts distance asking.sorting sort
    ∧ call = Plan.call { plan with
      returnFields := if asking.keysOnly then [] else distance ++ s.schema.storeNames.map .text
      sort
      limit := asking.window.or window }

/-- Each call of a session puts the question of the search in its own way. There are calls just when
the first of them has a plan. -/
def Asks {α : Type} (s : Search) (m : Session α) (past : List Call) (asking : Nat → Result Asking) :
    Prop :=
  ∃ r made, m.Gives past r made
    ∧ (made ≠ [] ↔ ∃ first plan, asking 0 = .ok first
      ∧ s.compiler.compile s.conditions first.options = .ok plan)
    ∧ ∀ i call, made[i]? = some call → ∃ here, asking i = .ok here ∧ s.Puts here call

end Search

namespace Accessor

/-- The window of a page when all are fetched. -/
def pageWindow (i : Nat) : Value → Window
  | .int n => ⟨.int (i * n), .int n⟩
  | size => ⟨.int 0, size⟩

def asking (s : Search) (a : Accessor) (i : Nat) : Result Asking :=
  match a with
  | .count => .ok ⟨true, none, some ⟨.int 0, .int 0⟩⟩
  | .first keysOnly => .ok ⟨keysOnly, s.sort, some ⟨.int 0, .int 1⟩⟩
  | .extreme field direction keysOnly =>
    .ok ⟨keysOnly, some (field, direction), some ⟨.int 0, .int 1⟩⟩
  | .page offset size keysOnly => .ok ⟨keysOnly, s.sort, some ⟨offset, size⟩⟩
  | .all requested keysOnly => do
    let size ← s.pageSize requested
    return ⟨keysOnly, s.sort, some (pageWindow i size)⟩

end Accessor

/-! ## What plans have in common -/

namespace Compiler

variable {c : Compiler} {node : Condition} {o : SearchOptions} {plan : Plan}

end Compiler

namespace Search

open Condition

variable {s : Search} {t : Transport} {past : List Call} {asking : Asking} {plan : Plan}

/-! ## Calls that put the question -/

theorem WellFormed.neighbours (h : s.WellFormed) {q : Compiler.Question}
    (asked : s.compiler.question s.conditions = .ok q) : s.Neighbours q.scoreFields q.window := by
  cases near : s.nearest with
  | none =>
    have leaves : s.conditions.nearestLeaves = [] := by
      rw [h.nearestLeaves, near]
      rfl
    have without : s.compiler.nearestClause? s.conditions = .ok none :=
      Compiler.nearestClause?_of_none leaves
    unfold Compiler.question at asked
    rw [without, ok_bind] at asked
    obtain ⟨text, _, asked⟩ := bind_eq_ok.1 asked
    cases asked
    exact .none near
  | some l =>
    obtain ⟨target, k, vector, scoreAlias, rfl⟩ := isNearest_eq_true (h.near l near).2
    have leaves : s.conditions.nearestLeaves = [.leaf target (.nearest k vector scoreAlias)] := by
      rw [h.nearestLeaves, near]
      rfl
    obtain ⟨_, f, origin, _, rfl, _, _, _, filter, column, _, named, _, _, _, _, _, _, rfl⟩ :=
      Compiler.question_eq_ok leaves asked
    exact .some near named

section Sessions

variable {α β : Type} {m : Session α}

theorem Asks.behind {way : Nat → Result Asking} {f : α → Session β} (asks : s.Asks m past way)
    (silent : ∀ a past, ∃ r, (f a).Gives past r []) : s.Asks (m >>= f) past way := by
  obtain ⟨r, made, gives, called, each⟩ := asks
  cases r with
  | error e => exact ⟨_, made, gives.bind_error, called, each⟩
  | ok a =>
    obtain ⟨r, next⟩ := silent a (past ++ made)
    exact ⟨r, made, gives.behind next, called, each⟩

theorem Asks.map {way : Nat → Result Asking} (asks : s.Asks m past way) (f : α → β) :
    s.Asks (f <$> m) past way := by
  rw [map_eq_pure_bind]
  exact asks.behind fun a past => ⟨_, Session.gives_pure (f a) past⟩

end Sessions

end Search

end TypedQuery
