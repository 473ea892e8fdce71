import TypedQuery.Proofs.Outcome
import TypedQuery.Proofs.Schema.Lookup
import TypedQuery.Proofs.Tables
import TypedQuery.Reply.Decode

/-! # Records from columns

A record is filled column by column. `Filled` says what it holds once some columns have been passed;
setting one more column preserves it, and so does a whole list. -/

namespace TypedQuery
set_option autoImplicit false

/-! ## Columns -/

namespace Columns

theorem lookup_set (columns : Columns) (name other : String) (v : Value) :
    (columns.set name v).lookup other = if other = name then some v else columns.lookup other := by
  unfold set
  rw [lookup_put]

theorem mem_set {columns : Columns} {name : String} {v : Value} {e : String × Value}
    (h : e ∈ columns.set name v) : e.1 = name ∨ e ∈ columns := by
  unfold set at h
  split at h
  · obtain ⟨e', he, rfl⟩ := List.mem_map.1 h
    split
    · exact .inl rfl
    · exact .inr he
  · rcases List.mem_append.1 h with he | he
    · exact .inr he
    · rw [List.mem_singleton.1 he]
      exact .inl rfl

/-- The value of a column; of several with one name, the last counts. -/
def last? (columns : Columns) (name : String) : Option Value := columns.reverse.lookup name

theorem last?_append (columns : Columns) (name other : String) (v : Value) :
    last? (columns ++ [(name, v)]) other = if other = name then some v else columns.last? other := by
  rw [last?, List.reverse_append, List.reverse_singleton, List.singleton_append, lookup_cons_ite,
    last?]

theorem mem_of_last? {columns : Columns} {name : String} {v : Value}
    (h : columns.last? name = some v) : (name, v) ∈ columns := by
  obtain ⟨before, after, e, _⟩ := List.lookup_eq_some_iff.1 h
  rw [← List.mem_reverse, e]
  simp

theorem last?_of_mem {columns : Columns} {e : String × Value} (h : e ∈ columns) :
    ∃ v, columns.last? e.1 = some v := by
  rw [← Option.isSome_iff_exists, last?, List.lookup_isSome_iff]
  exact ⟨e, List.mem_reverse.2 h, beq_self_eq_true _⟩

end Columns

/-! ## The invariant -/

/-- What a record holds once these columns have been passed: under the name of each declared field
the value of its column, and apart from them the distance. -/
structure Record.Filled (d : Decoder) (distance : String) (passed : Columns) (r : Record) : Prop where
  declared : ∀ f ∈ d.schema.fields, ∀ w, r.fields.lookup f.name.text = some w ↔
    ∃ v, passed.last? f.storeName.text = some v ∧ coerce d.settings.sentinels f v = .ok w
  named : ∀ e ∈ r.fields, ∃ f ∈ d.schema.fields, f.name.text = e.1
  measured : ∀ v, passed.last? distance = some v →
    ∃ x, readNumber d.settings.sentinels distance v = .ok x ∧ r.extras = [(distance, .double x)]
  bare : passed.last? distance = none → r.extras = []

/-- A column that can be set: one of a declared field whose value can be read as the field's, or the
distance with a number. -/
def Decoder.Settable (d : Decoder) (distance : String) (e : String × Value) : Prop :=
  (∃ f ∈ d.schema.fields, f.storeName.text = e.1
      ∧ ∃ w, coerce d.settings.sentinels f e.2 = .ok w)
    ∨ (e.1 = distance ∧ ∃ x, readNumber d.settings.sentinels distance e.2 = .ok x)

namespace Decoder

open Record

variable {d : Decoder} {distance : String} {passed : Columns} {r : Record}

theorem filled_nil (identifier key : String) : Filled d distance [] ⟨identifier, key, [], []⟩ := by
  refine ⟨?_, by simp, ?_, fun _ => rfl⟩
  · intro f _ w
    simp [Columns.last?]
  · intro v h
    simp [Columns.last?] at h

theorem extras_shape (filled : Filled d distance passed r) :
    r.extras = [] ∨ ∃ y, r.extras = [(distance, y)] := by
  cases h : passed.last? distance with
  | none => exact .inl (filled.bare h)
  | some v =>
    obtain ⟨x, _, e⟩ := filled.measured v h
    exact .inr ⟨_, e⟩

theorem extras_set {extras : Columns} {v : Value}
    (shape : extras = [] ∨ ∃ y, extras = [(distance, y)]) :
    extras.set distance v = [(distance, v)] := by
  rcases shape with rfl | ⟨y, rfl⟩
  · rfl
  · simp [Columns.set]

theorem setColumn_declared (filled : Filled d distance passed r)
    (apart : distance ∉ d.schema.storeNames) {f : Field} (declared : f ∈ d.schema.fields)
    {v w : Value} (read : coerce d.settings.sentinels f v = .ok w) :
    ∃ r', d.setColumn [.text distance] r f.storeName.text v = .ok r'
      ∧ r'.identifier = r.identifier ∧ r'.key = r.key
      ∧ Filled d distance (passed ++ [(f.storeName.text, v)]) r' := by
  have other : distance ≠ f.storeName.text := by
    rintro rfl
    exact apart (List.mem_map_of_mem declared)
  refine ⟨{ r with fields := r.fields.set f.name.text w }, ?_, rfl, rfl, ?_⟩
  · simp [setColumn, Schema.byStoreName?_of_mem declared, read]
  · refine ⟨?_, ?_, ?_, ?_⟩
    · intro g hg u
      rw [Columns.lookup_set, Columns.last?_append]
      -- names and store names are both distinct, so other fields keep their values
      by_cases same : g = f
      · subst same
        simp [read]
      · have names : g.name.text ≠ f.name.text :=
          fun e => same (Schema.eq_of_name hg declared e)
        have stores : g.storeName.text ≠ f.storeName.text :=
          fun e => same (Schema.eq_of_storeName hg declared e)
        rw [if_neg names, if_neg stores]
        exact filled.declared g hg u
    · intro e he
      rcases Columns.mem_set he with named | held
      · exact ⟨f, declared, named.symm⟩
      · exact filled.named e held
    · intro u hu
      rw [Columns.last?_append, if_neg other] at hu
      exact filled.measured u hu
    · intro none
      rw [Columns.last?_append, if_neg other] at none
      exact filled.bare none

theorem setColumn_distance (filled : Filled d distance passed r)
    (apart : distance ∉ d.schema.storeNames) {v : Value} {x : Double}
    (read : readNumber d.settings.sentinels distance v = .ok x) :
    ∃ r', d.setColumn [.text distance] r distance v = .ok r'
      ∧ r'.identifier = r.identifier ∧ r'.key = r.key
      ∧ Filled d distance (passed ++ [(distance, v)]) r' := by
  refine ⟨{ r with extras := r.extras.set distance (.double x) }, ?_, rfl, rfl, ?_⟩
  · simp [setColumn, Schema.byStoreName?_eq_none.2 apart, Value.isAmong, Value.same, read]
  · refine ⟨?_, filled.named, ?_, ?_⟩
    · intro g hg u
      have other : g.storeName.text ≠ distance := by
        rintro rfl
        exact apart (List.mem_map_of_mem hg)
      rw [Columns.last?_append, if_neg other]
      exact filled.declared g hg u
    · intro u hu
      rw [Columns.last?_append, if_pos rfl] at hu
      cases hu
      exact ⟨x, read, extras_set (extras_shape filled)⟩
    · intro none
      rw [Columns.last?_append, if_pos rfl] at none
      cases none

/-- Setting one more column. -/
theorem setColumn_filled (filled : Filled d distance passed r)
    (apart : distance ∉ d.schema.storeNames) {e : String × Value} (ready : d.Settable distance e) :
    ∃ r', d.setColumn [.text distance] r e.1 e.2 = .ok r'
      ∧ r'.identifier = r.identifier ∧ r'.key = r.key ∧ Filled d distance (passed ++ [e]) r' := by
  obtain ⟨name, v⟩ := e
  rcases ready with ⟨f, declared, rfl, w, read⟩ | ⟨rfl, x, read⟩
  · exact setColumn_declared filled apart declared read
  · exact setColumn_distance filled apart read

/-! ## Whole lists -/

/-- A flat list of names and values is these columns, the names read as text. -/
inductive Flat : List Value → Columns → Prop
  | nil : Flat [] []
  | cons {name v : Value} {rest : List Value} {text : String} {columns : Columns} :
    rawText name = .ok text → Flat rest columns → Flat (name :: v :: rest) ((text, v) :: columns)

theorem Flat.even {items : List Value} {columns : Columns} (flat : Flat items columns) :
    items.length % 2 = 0 := by
  induction flat with
  | nil => rfl
  | cons _ _ ih =>
    simp only [List.length_cons]
    omega

/-- Setting a whole list of columns. -/
theorem setColumns_filled {items : List Value} {columns : Columns} (flat : Flat items columns)
    (filled : Filled d distance passed r) (apart : distance ∉ d.schema.storeNames)
    (ready : ∀ e ∈ columns, d.Settable distance e) :
    ∃ r', d.setColumns [.text distance] r items = .ok r'
      ∧ r'.identifier = r.identifier ∧ r'.key = r.key ∧ Filled d distance (passed ++ columns) r' := by
  induction flat generalizing passed r with
  | nil => exact ⟨r, rfl, rfl, rfl, by simpa using filled⟩
  | @cons name v rest text columns named flat ih =>
    obtain ⟨r₁, set, identifier₁, key₁, filled₁⟩ :=
      setColumn_filled filled apart (ready _ (List.mem_cons_self ..))
    obtain ⟨r₂, run, identifier₂, key₂, filled₂⟩ :=
      ih filled₁ fun e he => ready e (List.mem_cons_of_mem _ he)
    refine ⟨r₂, ?_, identifier₂.trans identifier₁, key₂.trans key₁, by simpa using filled₂⟩
    simp [setColumns, named, set, run]

theorem setColumns_extras {items : List Value} {columns : Columns} (flat : Flat items columns)
    {scoreFields : List Value} (declared : ∀ e ∈ columns, e.1 ∈ d.schema.storeNames) {r' : Record}
    (h : d.setColumns scoreFields r items = .ok r') : r'.extras = r.extras := by
  induction flat generalizing r with
  | nil =>
    cases h
    rfl
  | @cons name v rest text columns named flat ih =>
    obtain ⟨text', named', h⟩ := bind_eq_ok.1 h
    rw [named] at named'
    cases named'
    obtain ⟨r₁, set, h⟩ := bind_eq_ok.1 h
    have kept : r₁.extras = r.extras := by
      unfold setColumn at set
      split at set
      · split at set
        · cases set
          rfl
        · cases set
        · cases set
      · rename_i unknown
        exact absurd (declared _ (List.mem_cons_self ..)) (Schema.byStoreName?_eq_none.1 unknown)
    rw [ih (fun e he => declared e (List.mem_cons_of_mem _ he)) h, kept]

end Decoder

end TypedQuery
