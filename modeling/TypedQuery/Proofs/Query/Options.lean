import TypedQuery.Proofs.Query.NearestReading
import TypedQuery.Proofs.Query.ReturnColumns
import TypedQuery.Proofs.Query.Windows

/-! # Options of a search

Sorting, columns and window are compiled on their own, each against the schema and the distance
column. A tree that has a plan has one under all options but those that name what nobody declared,
sort by what has no order, or ask for a window that is none. These are refused as faults of the
query, unless the message would show a number that is too long to be written. -/

namespace TypedQuery
set_option autoImplicit false

/-! ## What options may hold -/

/-- The names in the options are texts, or left out, and the direction has a text. -/
structure SearchOptions.Named (o : SearchOptions) : Prop where
  directed : o.sortDirection.isWritable = true
  sorted : o.sortBy = .null ∨ ∃ t, o.sortBy = .text t
  returned : o.returnFields = .null ∨ (∃ t, o.returnFields = .text t)
    ∨ ∃ names : List String, o.returnFields.items? = some (names.map .text)

/-- The direction is given by its label, in any case. -/
def SearchOptions.Directed (o : SearchOptions) (direction : Direction) : Prop :=
  ∃ t, o.sortDirection.display = .ok t ∧ upperCase t = direction.label

/-- What is wrong with a sorting: its direction, or a name that is not declared or has no order. -/
inductive SearchOptions.SortRefused (o : SearchOptions) (s : Schema) (distance : List Value) : Prop
  | direction : (∀ direction, ¬ o.Directed direction) → SortRefused o s distance
  | undeclared {t : String} : o.sortBy = .text t → .text t ∉ distance → t ∉ s.names →
    SortRefused o s distance
  | unordered {f : Field} : f ∈ s.fields → o.sortBy = .text f.name.text →
    .text f.name.text ∉ distance → f.type = .geo ∨ f.type = .vector → SortRefused o s distance

/-- What is wrong with columns: they are one text, or one of them is not declared. -/
inductive SearchOptions.ReturnRefused (o : SearchOptions) (s : Schema) (distance : List Value) : Prop
  | text {t : String} : o.returnFields = .text t → ReturnRefused o s distance
  | undeclared {names : List String} {t : String} : o.returnFields.items? = some (names.map .text) →
    t ∈ names → .text t ∉ distance → t ∉ s.names → ReturnRefused o s distance

/-- What is wrong with a window: it starts somewhere and has no size, or it is none. -/
inductive SearchOptions.WindowRefused (o : SearchOptions) : Prop
  | alone : o.count = .null → o.offset.truthy = true → WindowRefused o
  | offset : o.count ≠ .null → (∀ n : Nat, o.offset ≠ .int n) → WindowRefused o
  | count : o.count ≠ .null → (∀ n : Nat, n ≤ largestWindow → o.count ≠ .int n) → WindowRefused o

inductive SearchOptions.Refused (o : SearchOptions) (s : Schema) (distance : List Value) : Prop
  | sort : o.SortRefused s distance → Refused o s distance
  | columns : o.ReturnRefused s distance → Refused o s distance
  | window : o.WindowRefused → Refused o s distance

/-- Only the window is wrong, and the number at fault is too long to be written. -/
structure SearchOptions.Overlong (o : SearchOptions) (s : Schema) (distance : List Value) : Prop where
  sorted : ¬ o.SortRefused s distance
  returned : ¬ o.ReturnRefused s distance
  given : o.count ≠ .null
  window : OverlongWindow o.offset o.count

theorem SearchOptions.Overlong.refused {o : SearchOptions} {s : Schema} {distance : List Value}
    (h : o.Overlong s distance) : o.Refused s distance := by
  refine .window ?_
  cases h.window with
  | offset same negative =>
    refine .offset h.given ?_
    rintro n natural
    cases same.symm.trans natural
    omega
  | count _ same long =>
    refine .count h.given ?_
    rintro n small natural
    cases same.symm.trans natural
    exact absurd (long.symm.trans (isShort_of_le small Compiler.isShort_largestWindow))
      Bool.false_ne_true

/-! ## What becomes of options -/

/-- The column that a name stands for: the distance by its own name, and otherwise the field that is
declared under the name. -/
inductive Schema.Column (s : Schema) (distance : List Value) : String → Value → Prop
  | distance {t : String} : .text t ∈ distance → Column s distance t (.text t)
  | field {f : Field} : f ∈ s.fields → .text f.name.text ∉ distance →
    Column s distance f.name.text (.text f.storeName.text)

/-- Listed columns go out as they are, unless there are some and the distance is none of them; then it
goes in front. -/
inductive Fronted (distance columns : List Value) : List Value → Prop
  | listed : (columns = [] ∨ ∀ column ∈ distance, column ∈ columns) →
    Fronted distance columns columns
  | front {column : Value} : columns ≠ [] → column ∈ distance → column ∉ columns →
    Fronted distance columns (column :: columns)

inductive SearchOptions.Returns (o : SearchOptions) (s : Schema) (distance : List Value) :
    List Value → Prop
  | everything : o.returnFields = .null → Returns o s distance (distance ++ s.storeNames.map .text)
  | listed {names : List String} {columns returned : List Value} :
    o.returnFields.items? = some (names.map .text) →
    List.Forall₂ (s.Column distance) names columns → Fronted distance columns returned →
    Returns o s distance returned

inductive SearchOptions.Sorts (o : SearchOptions) (s : Schema) (distance : List Value) :
    Option SortClause → Prop
  | unsorted {direction : Direction} : o.sortBy = .null → distance = [] →
    o.Directed direction → Sorts o s distance none
  | nearer {column : Value} {direction : Direction} : o.sortBy = .null → distance = [column] →
    o.Directed direction →
    Sorts o s distance (some ⟨column, Direction.ascending.word⟩)
  | distance {t : String} {direction : Direction} : o.sortBy = .text t → .text t ∈ distance →
    o.Directed direction →
    Sorts o s distance (some ⟨.text t, direction.word⟩)
  | field {f : Field} {direction : Direction} : f ∈ s.fields → o.sortBy = .text f.name.text →
    .text f.name.text ∉ distance → f.type ≠ .geo → f.type ≠ .vector →
    o.Directed direction →
    Sorts o s distance (some ⟨.text f.storeName.text, direction.word⟩)

/-- The window that the options ask for, and otherwise the one for so many neighbours. -/
inductive SearchOptions.Windows (o : SearchOptions) (neighbours : Option Nat) :
    Option Window → Prop
  | given {start size : Nat} : o.offset = .int start → o.count = .int size → size ≤ largestWindow →
    Windows o neighbours (some ⟨.int start, .int size⟩)
  | neighbours {k : Nat} : o.count = .null → o.offset.truthy = false → neighbours = some k →
    1 ≤ k → k ≤ largestWindow → Windows o neighbours (some ⟨.int 0, .int k⟩)
  | whole : o.count = .null → o.offset.truthy = false → neighbours = none → Windows o neighbours none

/-- The plan has the columns, the sorting and the window that the options ask for. -/
structure Plan.Follows (p : Plan) (o : SearchOptions) (s : Schema) (distance : List Value)
    (neighbours : Option Nat) : Prop where
  columns : o.Returns s distance p.returnFields
  sort : o.Sorts s distance p.sort
  limit : o.Windows neighbours p.limit

/-- The distance column of a tree and the number of neighbours that it asks for, if it does. -/
inductive Compiler.Measures (c : Compiler) (node : Condition) : List Value → Option Nat → Prop
  | plain : node.nearestLeaves = [] → Measures c node [] none
  | nearest {f : Field} {k : Nat} {vector scoreAlias column : Value} :
    node.nearestLeaves = [.leaf (.field f .schema) (.nearest (.int k) vector scoreAlias)] →
    1 ≤ k → k ≤ largestWindow →
    c.scoreColumn ⟨f, .int k, vector, scoreAlias⟩ = .ok column → Measures c node [column] (some k)

/-! ## Refusals -/

/-- The error is a fault of the query, and there is this reason. -/
inductive Refusal (reason : Prop) : Error → Prop
  | query {fault : QueryFault} : reason → Refusal reason (.query fault)

theorem Refusal.mono {reason cause : Prop} (why : reason → cause) (e : Error)
    (h : Refusal reason e) : Refusal cause e := by
  cases h with
  | query hr => exact .query (why hr)

/-- Why a window is refused: it is none, and that can be said or not. -/
inductive SearchOptions.WindowFault (o : SearchOptions) : Error → Prop
  | query {fault : QueryFault} : o.WindowRefused →
    ¬ (o.count ≠ .null ∧ OverlongWindow o.offset o.count) → WindowFault o (.query fault)
  | overlong : o.count ≠ .null → OverlongWindow o.offset o.count → WindowFault o (.misuse .badValue)

/-- Why options are refused: something is wrong with them, and that can be said or not. -/
inductive SearchOptions.Fault (o : SearchOptions) (s : Schema) (distance : List Value) : Error → Prop
  | query {fault : QueryFault} : o.Refused s distance → ¬ o.Overlong s distance →
    Fault o s distance (.query fault)
  | overlong : o.Overlong s distance → Fault o s distance (.misuse .badValue)

section Reasons

variable {o : SearchOptions} {s : Schema} {distance : List Value} {e : Error}

theorem SearchOptions.Fault.refused (h : o.Fault s distance e) : o.Refused s distance := by
  cases h with
  | query refused => exact refused
  | overlong long => exact long.refused

theorem SearchOptions.Fault.of_sort (h : Refusal (o.SortRefused s distance) e) :
    o.Fault s distance e := by
  cases h with
  | query refused => exact .query (.sort refused) fun long => long.sorted refused

theorem SearchOptions.Fault.of_return (h : Refusal (o.ReturnRefused s distance) e) :
    o.Fault s distance e := by
  cases h with
  | query refused => exact .query (.columns refused) fun long => long.returned refused

theorem SearchOptions.WindowFault.fault (h : o.WindowFault e) (sorted : ¬ o.SortRefused s distance)
    (returned : ¬ o.ReturnRefused s distance) : o.Fault s distance e := by
  cases h with
  | query refused written =>
    exact .query (.window refused) fun long => written ⟨long.given, long.window⟩
  | overlong given long => exact .overlong ⟨sorted, returned, given, long⟩

end Reasons

/-! ## Names -/

theorem Value.isAmong_of_texts {column : Value} {columns : List Value}
    (texts : ∀ v ∈ columns, ∃ t, v = .text t) :
    column.isAmong columns = true ↔ column ∈ columns := by
  rw [isAmong, List.any_eq_true]
  constructor
  · rintro ⟨v, hv, same⟩
    obtain ⟨t, rfl⟩ := texts v hv
    rw [same_text same]
    exact hv
  · intro hc
    obtain ⟨t, rfl⟩ := texts column hc
    exact ⟨_, hc, by simp [same]⟩

theorem Value.text_isAmong {t : String} {vs : List Value} :
    (text t).isAmong vs = true ↔ text t ∈ vs := by
  rw [isAmong, List.any_eq_true]
  constructor
  · rintro ⟨v, hv, same⟩
    rw [text_same same] at hv
    exact hv
  · intro ht
    exact ⟨_, ht, by simp [same]⟩

theorem Direction.ofLabel?_label {label : String} {direction : Direction}
    (h : Direction.ofLabel? label = some direction) : label = direction.label := by
  unfold Direction.ofLabel? at h
  split at h
  · cases h
    assumption
  · split at h
    · cases h
      assumption
    · cases h

theorem Direction.ofLabel?_none {label : String} (h : Direction.ofLabel? label = none)
    (direction : Direction) : label ≠ direction.label := by
  rintro rfl
  cases direction <;> cases h

namespace Compiler

open Schema

variable {c : Compiler} {o : SearchOptions} {distance : List Value} {t : String}

theorem declaredIn_decides (s : Schema) (t : String) :
    Decides (Refusal (t ∉ s.names)) (fun f => f ∈ s.fields ∧ f.name.text = t)
      (declaredIn s (.text t)) := by
  have keyed : (Value.text t).asKey = .ok (.text t) := rfl
  unfold declaredIn Schema.get
  rw [keyed, ok_bind]
  dsimp only
  cases found : s.byName? t with
  | none => exact .refused (.query (byName?_eq_none.1 found))
  | some f => exact .ok (byName?_eq_some found)

theorem few_cases (few : distance.length ≤ 1) :
    distance = [] ∨ ∃ column, distance = [column] := by
  cases distance with
  | nil => exact .inl rfl
  | cons column rest =>
    have none : rest = [] := List.length_eq_zero_iff.1 (by simpa using few)
    exact .inr ⟨column, by rw [none]⟩

/-! ## Sorting -/

theorem directionOf_decides (s : Schema) (named : o.Named) :
    Decides (Refusal (o.SortRefused s distance)) o.Directed (directionOf o.sortDirection) := by
  obtain ⟨t, shown⟩ := Option.isSome_iff_exists.1 named.directed
  rw [← Value.display_eq_ok] at shown
  unfold directionOf
  rw [shown, ok_bind]
  split
  · rename_i direction found
    exact .ok ⟨t, shown, Direction.ofLabel?_label found⟩
  · rename_i unknown
    have worded : (Error.query (.unknownDirection o.sortDirection)).message?.isSome = true := by
      have literal := o.sortDirection.isSome_literal?
      rw [named.directed] at literal
      obtain ⟨text, quoted⟩ := Option.isSome_iff_exists.1 literal
      rw [Error.message?, QueryFault.message?, quoted]
      rfl
    rw [refuse, Error.raised, if_pos worded]
    refine .refused (.query (.direction ?_))
    rintro direction ⟨t', same, label⟩
    cases shown.symm.trans same
    exact Direction.ofLabel?_none unknown direction label

/-- A field that is sorted by is declared and has an order. -/
theorem sortField?_decides (sorted : o.sortBy = .text t) (unlike : .text t ∉ distance) :
    Decides (Refusal (o.SortRefused c.schema distance))
      (fun found => ∃ f ∈ c.schema.fields, f.name.text = t ∧ f.type ≠ .geo ∧ f.type ≠ .vector
        ∧ found = some f)
      (c.sortField? o distance) := by
  have declared : Decides (Refusal (o.SortRefused c.schema distance))
      (fun f => f ∈ c.schema.fields ∧ f.name.text = t) (declaredIn c.schema (.text t)) :=
    (declaredIn_decides c.schema t).because
      (Refusal.mono fun unknown => .undeclared sorted unlike unknown)
  unfold sortField?
  rw [sorted]
  dsimp only
  rw [if_neg (mt Value.text_isAmong.1 unlike)]
  refine declared.bind fun f found => ?_
  obtain ⟨member, rfl⟩ := found
  split
  · rename_i type_eq
    exact .refused (.query (.unordered member sorted unlike type_eq))
  · rename_i ordered
    rw [not_or] at ordered
    exact .ok ⟨f, member, rfl, ordered.1, ordered.2, rfl⟩

theorem sortClause_decides (named : o.Named) (few : distance.length ≤ 1) :
    Decides (Refusal (o.SortRefused c.schema distance)) (o.Sorts c.schema distance)
      (c.sortClause o distance) := by
  refine (directionOf_decides c.schema named).bind fun direction label => ?_
  rcases named.sorted with null | ⟨t, sorted⟩
  · have field : c.sortField? o distance = .ok none := by simp [sortField?, null]
    rw [field, null]
    rcases few_cases few with rfl | ⟨column, rfl⟩
    · exact .ok (.unsorted null rfl label)
    · exact .ok (.nearer null rfl label)
  · by_cases among : Value.text t ∈ distance
    · have field : c.sortField? o distance = .ok none := by
        simp [sortField?, sorted, Value.text_isAmong.2 among]
      rw [field, sorted]
      exact .ok (.distance sorted among label)
    · refine (sortField?_decides sorted among).bind fun found spec => ?_
      obtain ⟨f, member, rfl, place, arrow, rfl⟩ := spec
      exact .ok (.field member sorted among place arrow label)

/-! ## Columns -/

theorem returnColumn_decides (t : String) :
    Decides (Refusal (.text t ∉ distance ∧ t ∉ c.schema.names)) (c.schema.Column distance t)
      (c.returnColumn distance (.text t)) := by
  unfold returnColumn
  by_cases among : Value.text t ∈ distance
  · rw [if_pos (Value.text_isAmong.2 among)]
    exact .ok (.distance among)
  · rw [if_neg (mt Value.text_isAmong.1 among)]
    have declared := (declaredIn_decides c.schema t).because (Refusal.mono (And.intro among))
    refine declared.bind fun f found => ?_
    obtain ⟨member, rfl⟩ := found
    exact .ok (.field member among)

/-- A list of names is refused for the first of them that is neither the distance column nor
declared. -/
theorem listed_decides (names : List String) :
    Decides (Refusal (∃ t ∈ names, .text t ∉ distance ∧ t ∉ c.schema.names))
      (List.Forall₂ (c.schema.Column distance) names)
      ((names.map .text).mapM (c.returnColumn distance)) := by
  rw [List.mapM_map]
  refine (decides_mapM fun t _ => returnColumn_decides t).because ?_
  rintro e ⟨t, ht, why⟩
  exact why.mono (fun unknown => ⟨t, ht, unknown⟩) e

theorem column_text {s : Schema} {column : Value} (h : s.Column distance t column) :
    ∃ t, column = .text t := by
  cases h with
  | distance => exact ⟨_, rfl⟩
  | field => exact ⟨_, rfl⟩

theorem fronted_foldl {columns : List Value} (few : distance.length ≤ 1) (some : columns ≠ [])
    (texts : ∀ v ∈ columns, ∃ t, v = .text t) :
    Fronted distance columns (distance.foldl
      (fun columns column => if column.isAmong columns then columns else column :: columns)
      columns) := by
  rcases few_cases few with rfl | ⟨column, rfl⟩
  · exact .listed (.inr fun column none => absurd none List.not_mem_nil)
  · rw [List.foldl_cons, List.foldl_nil]
    by_cases among : column ∈ columns
    · rw [if_pos ((Value.isAmong_of_texts texts).2 among)]
      exact .listed (.inr fun column' only => List.mem_singleton.1 only ▸ among)
    · rw [if_neg (mt (Value.isAmong_of_texts texts).1 among)]
      exact .front some (List.mem_singleton_self _) among

theorem returnColumns_decides (named : o.Named) (few : distance.length ≤ 1) :
    Decides (Refusal (o.ReturnRefused c.schema distance)) (o.Returns c.schema distance)
      (c.returnColumns o distance) := by
  rcases named.returned with null | ⟨t, text⟩ | ⟨names, listed⟩
  · rw [returnColumns, null]
    exact .ok (.everything null)
  · rw [returnColumns, text]
    exact .refused (.query (.text text))
  · have sequence : c.returnColumns o distance
        = ((names.map .text).mapM (c.returnColumn distance) >>= fun columns =>
            if columns.isEmpty then .ok []
            else .ok (distance.foldl
              (fun columns column => if column.isAmong columns then columns else column :: columns)
              columns)) := by
      cases kind : o.returnFields with
      | list items =>
        rw [kind, Value.items?, Option.some.injEq] at listed
        rw [returnColumns, kind, listed]
        rfl
      | tuple items =>
        rw [kind, Value.items?, Option.some.injEq] at listed
        rw [returnColumns, kind, listed]
        rfl
      | _ => simp [kind, Value.items?] at listed
    have each : Decides (Refusal (o.ReturnRefused c.schema distance))
        (List.Forall₂ (c.schema.Column distance) names)
        ((names.map .text).mapM (c.returnColumn distance)) := by
      refine (listed_decides names).because (Refusal.mono ?_)
      rintro ⟨t, ht, unlike, unknown⟩
      exact .undeclared listed ht unlike unknown
    rw [sequence]
    refine each.bind fun columns all => ?_
    have texts : ∀ v ∈ columns, ∃ t, v = .text t := by
      intro v hv
      obtain ⟨t, _, step⟩ := exists_left_of_mem all hv
      exact column_text step
    by_cases empty : columns = []
    · rw [empty] at all ⊢
      exact .ok (.listed listed all (.listed (.inl rfl)))
    · rw [if_neg (by simpa using empty)]
      exact .ok (.listed listed all (fronted_foldl few empty texts))

/-! ## Windows -/

theorem windowOf_decides {neighbours : Option Nat}
    (within : ∀ k, neighbours = some k → 1 ≤ k ∧ k ≤ largestWindow) :
    Decides o.WindowFault
      (fun limit => o.Windows neighbours
        (limit.or (neighbours.map fun k : Nat => ⟨.int 0, .int k⟩))) (windowOf o) := by
  by_cases null : o.count = .null
  · rw [windowOf, null]
    dsimp only
    by_cases alone : o.offset.truthy = true
    · rw [if_pos alone]
      exact .refused (.query (.alone null alone) fun long => long.1 null)
    · rw [if_neg alone]
      rw [Bool.not_eq_true] at alone
      cases neighbours with
      | none => exact .ok (.whole null alone rfl)
      | some k =>
        obtain ⟨low, high⟩ := within k rfl
        exact .ok (.neighbours null alone rfl low high)
  · have given : windowOf o
        = ((checkWindow o.offset o.count (.int largestWindow)).mapError Error.inQuery >>=
          fun parts => .ok (some ⟨.int parts.1, .int parts.2⟩)) := by
      unfold windowOf
      split
      · contradiction
      · rfl
    rw [given]
    have fault : ∀ e, WindowFault o.offset o.count largestWindow e → o.WindowFault e.inQuery := by
      intro e why
      cases why with
      | shown unlike written =>
        refine .query ?_ fun long => written long.2
        cases unlike with
        | offset unlike => exact .offset null unlike
        | count unlike => exact .count null unlike
      | overlong long => exact .overlong null long
    refine ((checkWindow_decides _ _ isShort_largestWindow).mapError fault).map fun parts found => ?_
    exact .given found.1 found.2.1 found.2.2

end Compiler

/-! ## What was followed was not refused -/

section Apart

variable {o : SearchOptions} {s : Schema} {distance columns : List Value} {t : String}

/-- A sorting by a name is by the distance column or by a declared field with an order. -/
theorem SearchOptions.Sorts.named {sort : Option SortClause} (h : o.Sorts s distance sort)
    (by_t : o.sortBy = .text t) :
    .text t ∈ distance ∨ ∃ f ∈ s.fields, f.name.text = t ∧ f.type ≠ .geo ∧ f.type ≠ .vector := by
  cases h with
  | unsorted null => exact absurd (null.symm.trans by_t) nofun
  | nearer null => exact absurd (null.symm.trans by_t) nofun
  | distance by_t' among =>
    cases by_t.symm.trans by_t'
    exact .inl among
  | field member by_f _ place arrow =>
    cases by_t.symm.trans by_f
    exact .inr ⟨_, member, rfl, place, arrow⟩

theorem SearchOptions.Sorts.not_refused {sort : Option SortClause} (h : o.Sorts s distance sort) :
    ¬ o.SortRefused s distance := by
  intro refused
  cases refused with
  | direction none =>
    cases h with
    | unsorted _ _ label => exact none _ label
    | nearer _ _ label => exact none _ label
    | distance _ _ label => exact none _ label
    | field _ _ _ _ _ label => exact none _ label
  | undeclared by_t unlike unknown =>
    rcases h.named by_t with among | ⟨f, member, rfl, _⟩
    · exact unlike among
    · exact unknown (Schema.mem_names member)
  | unordered member by_f unlike type_eq =>
    rcases h.named by_f with among | ⟨g, member', same, place, arrow⟩
    · exact unlike among
    · rw [← Schema.eq_of_name member' member same] at type_eq
      exact type_eq.elim place arrow

theorem SearchOptions.Returns.not_refused (h : o.Returns s distance columns) :
    ¬ o.ReturnRefused s distance := by
  intro refused
  cases refused with
  | text text =>
    cases h with
    | everything null => exact absurd (null.symm.trans text) nofun
    | listed list =>
      rw [text] at list
      cases list
  | @undeclared names t list ht unlike unknown =>
    cases h with
    | everything null =>
      rw [null] at list
      cases list
    | @listed names' _ _ list' all =>
      have texts : names.map Value.text = names'.map .text := Option.some.inj (list.symm.trans list')
      have same : names = names' := List.map_injective_iff.2 (fun _ _ => Value.text.inj) texts
      rw [same] at ht
      obtain ⟨_, _, column⟩ := exists_right_of_mem all ht
      cases column with
      | distance among => exact unlike among
      | field member => exact unknown (Schema.mem_names member)

theorem SearchOptions.Windows.not_refused {neighbours : Option Nat} {limit : Option Window}
    (h : o.Windows neighbours limit) : ¬ o.WindowRefused := by
  intro refused
  cases h with
  | given start size small =>
    cases refused with
    | alone null => exact absurd (null.symm.trans size) nofun
    | offset _ outside => exact outside _ start
    | count _ outside => exact outside _ small size
  | neighbours null start | whole null start =>
    cases refused with
    | alone _ alone => exact absurd (start.symm.trans alone) nofun
    | offset given => exact given null
    | count given => exact given null

/-- A plan that follows the options shows that nothing is wrong with them. -/
theorem Plan.Follows.not_refused {p : Plan} {neighbours : Option Nat}
    (h : p.Follows o s distance neighbours) : ¬ o.Refused s distance := by
  intro refused
  cases refused with
  | sort refused => exact h.sort.not_refused refused
  | columns refused => exact h.columns.not_refused refused
  | window refused => exact h.limit.not_refused refused

end Apart

namespace Compiler

variable {c : Compiler} {o : SearchOptions} {distance : List Value}

/-! ## Plans -/

theorem question_measures {node : Condition} {q : Question}
    (made : node.MadeOf (Condition.Built c.schema)) (asked : c.question node = .ok q) :
    ∃ neighbours : Option Nat, c.Measures node q.scoreFields neighbours
      ∧ q.window = neighbours.map fun k : Nat => ⟨.int 0, .int k⟩ := by
  rcases question_cases asked with ⟨plain, _, _, rfl⟩ | ⟨target, k, vector, scoreAlias, once⟩
  · exact ⟨none, .plain plain, rfl⟩
  · obtain ⟨f, _, n, rfl, rfl, low, high⟩ := nearest_of_made made once
    obtain ⟨_, g, _, _, same, _, _, _, _, column, _, named, _, _, _, _, _, _, rfl⟩ :=
      question_eq_ok once asked
    cases same
    obtain ⟨k, rfl⟩ : ∃ k : Nat, n = k := ⟨n.toNat, by omega⟩
    have high : (k : Int) ≤ 10000 := high
    have small : k ≤ 10000 := by omega
    exact ⟨some k, .nearest once (by omega) small named, rfl⟩

namespace Measures

variable {node : Condition} {neighbours : Option Nat} (h : c.Measures node distance neighbours)

include h

theorem few : distance.length ≤ 1 := by
  cases h with
  | plain => exact Nat.zero_le 1
  | nearest => exact Nat.le_refl 1

theorem within : ∀ k, neighbours = some k → 1 ≤ k ∧ k ≤ largestWindow := by
  rintro k rfl
  cases h with
  | nearest _ low high => exact ⟨low, high⟩

end Measures

/-- For a tree that asks a question, options become a plan that follows them, or they are refused. -/
theorem compile_decides {node : Condition} {q : Question} {neighbours : Option Nat}
    (asked : c.question node = .ok q) (measures : c.Measures node q.scoreFields neighbours)
    (window : q.window = neighbours.map fun k : Nat => ⟨.int 0, .int k⟩) (named : o.Named) :
    Decides (o.Fault c.schema q.scoreFields)
      (fun plan => plan.Follows o c.schema q.scoreFields neighbours) (c.compile node o) := by
  unfold compile
  rw [asked, ok_bind, window]
  refine ((sortClause_decides named measures.few).because fun _ => .of_sort).bind fun sort sorted => ?_
  refine ((returnColumns_decides named measures.few).because fun _ => .of_return).bind
    fun columns returned => ?_
  refine ((windowOf_decides measures.within).because fun _ why =>
    why.fault sorted.not_refused returned.not_refused).bind fun limit limited => ?_
  exact .ok ⟨returned, sorted, limited⟩

/-- A query string of the caller has no distance column, and no window of its own. -/
theorem compileRaw_decides {query : Value} {text : String} (written : rawQuery query = .ok text)
    (named : o.Named) :
    Decides (o.Fault c.schema []) (fun plan => plan.query = text ∧ plan.Follows o c.schema [] none)
      (c.compileRaw query o) := by
  have few : ([] : List Value).length ≤ 1 := Nat.zero_le 1
  unfold compileRaw
  rw [written, ok_bind]
  have within : ∀ k, (none : Option Nat) = some k → 1 ≤ k ∧ k ≤ largestWindow := nofun
  refine ((returnColumns_decides named few).because fun _ => .of_return).bind fun columns returned => ?_
  refine ((sortClause_decides named few).because fun _ => .of_sort).bind fun sort sorted => ?_
  refine ((windowOf_decides within).because fun _ why =>
    why.fault sorted.not_refused returned.not_refused).bind fun limit limited => ?_
  rw [Option.map_none, Option.or_none] at limited
  exact .ok ⟨rfl, returned, sorted, limited⟩

/-- A tree that has a plan has one under any options, unless these name what is neither declared nor
the distance column, sort by a field without an order or in no direction, or ask for a window that is
none. Then they are refused as a fault of the query, but for a window whose number at fault is too long
to be written. The plan has the columns, the sorting and the window that the options ask for. -/
theorem compile_options {node : Condition} {whole : Plan}
    (made : node.MadeOf (Condition.Built c.schema)) (accepted : c.compile node {} = .ok whole)
    (named : o.Named) :
    ∃ distance neighbours, c.Measures node distance neighbours ∧ whole.scoreFields = distance
      ∧ ((∃ e, c.compile node o = .error e) ↔ o.Refused c.schema distance)
      ∧ (∀ e, c.compile node o = .error e →
        (¬ o.Overlong c.schema distance ∧ ∃ fault, e = .query fault)
          ∨ (o.Overlong c.schema distance ∧ e = .misuse .badValue))
      ∧ (¬ o.Refused c.schema distance → ∃ plan, c.compile node o = .ok plan
        ∧ plan.Follows o c.schema distance neighbours) := by
  obtain ⟨q, _, asked, _, _, _, _, _, scores, _⟩ := compile_eq_ok accepted
  obtain ⟨neighbours, measures, window⟩ := question_measures made asked
  have decides := compile_decides asked measures window named
  refine ⟨q.scoreFields, neighbours, measures, scores, ⟨?_, fun refused => ?_⟩, fun e failed => ?_,
    fun fine => decides.exists_ok fun e why => fine why.refused⟩
  · rintro ⟨e, failed⟩
    exact (decides.of_error failed).refused
  · cases outcome : c.compile node o with
    | ok plan => exact absurd refused (decides.of_ok outcome).not_refused
    | error e => exact ⟨e, rfl⟩
  · cases decides.of_error failed with
    | query _ written => exact .inl ⟨written, _, rfl⟩
    | overlong long => exact .inr ⟨long, rfl⟩

end Compiler

namespace Products

def thirdPage : SearchOptions where
  offset := .int 20
  count := .int 10
  sortBy := .text "kind"
  sortDirection := .text "desc"
  returnFields := .list [.text "kind"]

end Products

theorem Compiler.compile_options_thirdPage :
    ∃ plan, (Compiler.mk Products.schema {}).compile Products.nearHats Products.thirdPage = .ok plan
      ∧ plan.returnFields = [.text "distance", .text "kind"]
      ∧ plan.sort = some ⟨.text "kind", Direction.descending.word⟩
      ∧ plan.limit = some ⟨.int 20, .int 10⟩
      ∧ ∃ k, plan.Follows Products.thirdPage Products.schema [.text "distance"] k := by
  have named : Products.thirdPage.Named := ⟨rfl, .inr ⟨_, rfl⟩, .inr (.inr ⟨["kind"], rfl⟩)⟩
  have whole : ∃ plan, (Compiler.mk Products.schema {}).compile Products.nearHats {} = .ok plan
      ∧ plan.scoreFields = [.text "distance"] := ⟨_, rfl, rfl⟩
  have page : ∃ plan, (Compiler.mk Products.schema {}).compile Products.nearHats Products.thirdPage
        = .ok plan
      ∧ plan.returnFields = [.text "distance", .text "kind"]
      ∧ plan.sort = some ⟨.text "kind", Direction.descending.word⟩
      ∧ plan.limit = some ⟨.int 20, .int 10⟩ := ⟨_, rfl, rfl, rfl, rfl⟩
  obtain ⟨_, accepted, scores⟩ := whole
  obtain ⟨plan, compiled, columns, sorted, window⟩ := page
  obtain ⟨distance, k, _, same, refused_iff, _, follows⟩ :=
    compile_options Products.nearHats_made accepted named
  have fine : ¬ Products.thirdPage.Refused Products.schema distance := by
    intro refused
    obtain ⟨fault, failed⟩ := refused_iff.2 refused
    rw [compiled] at failed
    cases failed
  obtain ⟨plan', compiled', follows⟩ := follows fine
  rw [compiled, Except.ok.injEq] at compiled'
  rw [← compiled', ← same, scores] at follows
  exact ⟨plan, compiled, columns, sorted, window, k, follows⟩

/-- A page of more hats than can be written as a number is refused, but not as a fault of the query. -/
theorem Compiler.page_beyond_writing :
    ∃ whole, (Compiler.mk Products.schema {}).compile Products.isHat {} = .ok whole
      ∧ (Compiler.mk Products.schema {}).compile Products.isHat { count := .int integerBound }
        = .error (.misuse .badValue) := by
  have accepted : ∃ whole, (Compiler.mk Products.schema {}).compile Products.isHat {} = .ok whole :=
    ⟨_, rfl⟩
  obtain ⟨whole, accepted⟩ := accepted
  obtain ⟨q, _, asked, sorted, returned, _⟩ := compile_eq_ok accepted
  let page : SearchOptions := { count := .int integerBound }
  have sorted : (Compiler.mk Products.schema {}).sortClause page q.scoreFields = .ok whole.sort :=
    sorted
  have returned : (Compiler.mk Products.schema {}).returnColumns page q.scoreFields
      = .ok whole.returnFields := returned
  have start : page.offset = .int (0 : Nat) := rfl
  have failed : windowOf page = .error (.misuse .badValue) :=
    windowOf_overlong nofun (.count start rfl isShort_integerBound)
  refine ⟨whole, accepted, ?_⟩
  unfold compile
  rw [asked, ok_bind, sorted, ok_bind, returned, ok_bind, failed]
  rfl

end TypedQuery
