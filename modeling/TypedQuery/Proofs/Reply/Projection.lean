import TypedQuery.Proofs.Query.Expressible
import TypedQuery.Proofs.Query.NearestPlan
import TypedQuery.Proofs.Query.ReturnColumns
import TypedQuery.Proofs.Reply.ColumnSetting
import TypedQuery.Proofs.Reply.Framing

/-! # Projection

A caller asks for fields by their declared names, the plan asks the store for them by their store
names, and decoding brings the declared names back. Both ways every field goes by its own names, also
where the store name of one is the declared name of another. -/

namespace TypedQuery
set_option autoImplicit false

/-! ## What is asked for -/

/-- The fields that the options ask for, in their order: every declared field, or those of the
listed names. -/
structure SearchOptions.Asks (o : SearchOptions) (s : Schema) (asked : List Field) : Prop where
  declared : ∀ f ∈ asked, f ∈ s.fields
  all : o.returnFields = .null → asked = s.fields
  listed : o.returnFields ≠ .null →
    o.returnFields.members = .ok (asked.map fun f => .text f.name.text)

namespace Compiler

variable {c : Compiler} {o : SearchOptions}

theorem returnColumn_of_field {name column : Value} (h : c.returnColumn [] name = .ok column) :
    ∃ f ∈ c.schema.fields, name = .text f.name.text ∧ column = .text f.storeName.text := by
  obtain ⟨f, found, h⟩ := bind_eq_ok.1 h
  cases h
  obtain ⟨declared, named⟩ := Schema.get_eq_ok (mapError_eq_ok.1 found)
  exact ⟨f, declared, named, rfl⟩

theorem fields_of_columns {names columns : List Value}
    (each : List.Forall₂ (fun name column => c.returnColumn [] name = .ok column) names columns) :
    ∃ asked : List Field, (∀ f ∈ asked, f ∈ c.schema.fields)
      ∧ names = asked.map (fun f => .text f.name.text)
      ∧ columns = asked.map fun f => .text f.storeName.text := by
  induction each with
  | nil => exact ⟨[], by simp, rfl, rfl⟩
  | cons first _ ih =>
    obtain ⟨f, declared, rfl, rfl⟩ := returnColumn_of_field first
    obtain ⟨asked, others, rfl, rfl⟩ := ih
    exact ⟨f :: asked, List.forall_mem_cons.2 ⟨declared, others⟩, rfl, rfl⟩

/-- Without a distance, the columns are the store names of the fields that are asked for. -/
theorem returnColumns_of_fields {columns : List Value} (h : c.returnColumns o [] = .ok columns) :
    ∃ asked, o.Asks c.schema asked ∧ columns = asked.map fun f => .text f.storeName.text := by
  unfold returnColumns at h
  split at h
  · rename_i null
    cases h
    refine ⟨c.schema.fields, ⟨fun _ => id, fun _ => rfl, fun given => absurd null given⟩, ?_⟩
    simp [Schema.storeNames]
  · cases h
  · rename_i given _
    obtain ⟨names, members, h⟩ := bind_eq_ok.1 h
    obtain ⟨listed, each, h⟩ := bind_eq_ok.1 h
    obtain ⟨asked, declared, rfl, rfl⟩ := fields_of_columns (mapM_eq_ok.1 each)
    refine ⟨asked, ⟨declared, fun null => absurd null given, fun _ => members⟩, ?_⟩
    split at h
    · rename_i empty
      cases h
      exact (List.isEmpty_iff.1 empty).symm
    · cases h
      rfl

end Compiler

/-! ## Hits and records -/

/-- The hit carries a value for each column of the plan, in order, which can be read by the type of
its field. -/
structure SentHit.Carries (h : SentHit) (d : Decoder) (p : Plan) (columns : Columns) : Prop where
  flat : Decoder.Flat h.columns columns
  named : columns.map (fun e => .text e.1) = p.returnFields
  reads : ∀ f ∈ d.schema.fields, ∀ v, (f.storeName.text, v) ∈ columns →
    ∃ w, coerce d.settings.sentinels f v = .ok w

/-- The record has exactly these fields, each under its declared name with what its own column holds,
read by its own type, and nothing else. -/
structure Record.Projects (r : Record) (d : Decoder) (asked : List Field) (columns : Columns) :
    Prop where
  names : ∀ name, name ∈ r.fields.map Prod.fst ↔ ∃ f ∈ asked, f.name.text = name
  distinct : (r.fields.map Prod.fst).Nodup
  values : ∀ f ∈ asked, ∃ v w, columns.last? f.storeName.text = some v
    ∧ coerce d.settings.sentinels f v = .ok w ∧ r.fields.lookup f.name.text = some w
  bare : r.extras = []

namespace Columns

variable {columns : Columns}

theorem names_set (columns : Columns) (name : String) (v : Value) :
    (columns.set name v).map Prod.fst
      = if name ∈ columns.map Prod.fst then columns.map Prod.fst
        else columns.map Prod.fst ++ [name] := by
  have among : (columns.any fun e => e.1 == name) = true ↔ name ∈ columns.map Prod.fst := by
    simp only [List.any_eq_true, beq_iff_eq, List.mem_map]
  unfold set
  by_cases held : name ∈ columns.map Prod.fst
  · rw [if_pos (among.2 held), if_pos held, List.map_map]
    refine List.map_congr_left fun e _ => ?_
    by_cases same : e.1 = name
    · simp [same]
    · simp [same]
  · rw [if_neg (mt among.1 held), if_neg held, List.map_append]
    rfl

theorem nodup_set (h : (columns.map Prod.fst).Nodup) (name : String) (v : Value) :
    ((columns.set name v).map Prod.fst).Nodup := by
  rw [names_set]
  split
  · exact h
  · rename_i fresh
    rw [← List.concat_eq_append]
    exact h.concat fresh

end Columns

namespace Decoder

variable {d : Decoder} {r : Record}

theorem setColumn_nodup {scoreFields : List Value} {r' : Record} {name : String} {v : Value}
    (distinct : (r.fields.map Prod.fst).Nodup) (h : d.setColumn scoreFields r name v = .ok r') :
    (r'.fields.map Prod.fst).Nodup := by
  unfold setColumn at h
  split at h
  · split at h
    · cases h
      exact Columns.nodup_set distinct _ _
    · cases h
    · cases h
  · split at h
    · obtain ⟨x, _, h⟩ := bind_eq_ok.1 h
      cases h
      exact distinct
    · cases h
      exact distinct

theorem setColumns_nodup {scoreFields items : List Value} {r' : Record}
    (distinct : (r.fields.map Prod.fst).Nodup)
    (h : d.setColumns scoreFields r items = .ok r') : (r'.fields.map Prod.fst).Nodup := by
  induction r, items using setColumns.induct with
  | case1 r name v rest ih =>
    obtain ⟨text, _, h⟩ := bind_eq_ok.1 h
    obtain ⟨r₁, set, h⟩ := bind_eq_ok.1 h
    exact ih r₁ (setColumn_nodup distinct set) h
  | case2 items r short =>
    rw [setColumns] at h
    · cases h
      exact distinct
    · exact short

/-- Columns of declared fields are set alike whatever the distances are called. -/
theorem setColumns_declared {items : List Value} {columns : Columns} (flat : Flat items columns)
    (declared : ∀ e ∈ columns, ∃ f ∈ d.schema.fields, f.storeName.text = e.1)
    (scoreFields scoreFields' : List Value) :
    d.setColumns scoreFields r items = d.setColumns scoreFields' r items := by
  induction flat generalizing r with
  | nil => rfl
  | @cons name v rest text columns named flat ih =>
    obtain ⟨f, member, rfl⟩ := declared _ (List.mem_cons_self ..)
    have others := fun r => ih (r := r) fun e he => declared e (List.mem_cons_of_mem _ he)
    have alike : d.setColumn scoreFields r f.storeName.text v
        = d.setColumn scoreFields' r f.storeName.text v := by
      rw [setColumn, setColumn, Schema.byStoreName?_of_mem member]
    simp only [setColumns, named, ok_bind, alike, others]

theorem empty_not_storeName : "" ∉ d.schema.storeNames := by
  intro h
  obtain ⟨f, _, empty⟩ := List.mem_map.1 h
  have valid := f.storeName.valid
  rw [empty] at valid
  exact absurd valid (by decide)

variable {p : Plan} {asked : List Field} {columns : Columns} {h : SentHit}

theorem stores_of_carries (carries : h.Carries d p columns)
    (returned : p.returnFields = asked.map fun f => .text f.storeName.text) :
    columns.map Prod.fst = asked.map fun f => f.storeName.text := by
  have texts : (columns.map Prod.fst).map Value.text
      = (asked.map fun f => f.storeName.text).map Value.text := by
    rw [List.map_map, List.map_map]
    exact carries.named.trans returned
  exact List.map_injective_iff.2 (fun _ _ => Value.text.inj) texts

theorem projects_of_filled (declared : ∀ f ∈ asked, f ∈ d.schema.fields)
    (stores : columns.map Prod.fst = asked.map fun f => f.storeName.text)
    (carries : h.Carries d p columns) (filled : r.Filled d "" columns)
    (distinct : (r.fields.map Prod.fst).Nodup) : r.Projects d asked columns := by
  have values : ∀ f ∈ asked, ∃ v w, columns.last? f.storeName.text = some v
      ∧ coerce d.settings.sentinels f v = .ok w ∧ r.fields.lookup f.name.text = some w := by
    intro f hf
    have among : f.storeName.text ∈ columns.map Prod.fst := by
      rw [stores]
      exact List.mem_map_of_mem hf
    obtain ⟨e, he, same⟩ := List.mem_map.1 among
    obtain ⟨v, last⟩ := Columns.last?_of_mem he
    rw [same] at last
    obtain ⟨w, read⟩ := carries.reads f (declared f hf) v (Columns.mem_of_last? last)
    exact ⟨v, w, last, read, (filled.declared f (declared f hf) w).2 ⟨v, last, read⟩⟩
  refine ⟨fun name => ⟨?_, ?_⟩, distinct, values, ?_⟩
  · intro held
    obtain ⟨e, he, rfl⟩ := List.mem_map.1 held
    obtain ⟨f, hf, named⟩ := filled.named e he
    have found : (r.fields.lookup f.name.text).isSome = true :=
      List.lookup_isSome_iff.2 ⟨e, he, beq_iff_eq.2 named⟩
    obtain ⟨w, hw⟩ := Option.isSome_iff_exists.1 found
    obtain ⟨v, last, _⟩ := (filled.declared f hf w).1 hw
    -- its column is one of those asked for, and store names are told apart
    have among := List.mem_map_of_mem (f := Prod.fst) (Columns.mem_of_last? last)
    rw [stores] at among
    obtain ⟨g, hg, same⟩ := List.mem_map.1 among
    rw [← Schema.eq_of_storeName (declared g hg) hf same] at named
    exact ⟨g, hg, named⟩
  · rintro ⟨f, hf, rfl⟩
    obtain ⟨v, w, _, _, found⟩ := values f hf
    obtain ⟨before, after, split, _⟩ := List.lookup_eq_some_iff.1 found
    rw [split]
    simp
  · refine filled.bare ?_
    rw [Columns.last?, List.lookup_eq_none_iff]
    intro e he
    obtain ⟨f, hf, same⟩ : ∃ f ∈ asked, f.storeName.text = e.1 := by
      have among := List.mem_map_of_mem (f := Prod.fst) (List.mem_reverse.1 he)
      rw [stores] at among
      exact List.mem_map.1 among
    rw [bne_iff_ne]
    intro empty
    have stored : f.storeName.text ∈ d.schema.storeNames := List.mem_map_of_mem (declared f hf)
    rw [same, ← empty] at stored
    exact empty_not_storeName stored

/-- A hit with the columns of the fields that are asked for becomes a record of these fields. -/
theorem sentRecord_projects (declared : ∀ f ∈ asked, f ∈ d.schema.fields)
    (returned : p.returnFields = asked.map fun f => .text f.storeName.text)
    (carries : h.Carries d p columns) :
    ∃ r, d.sentRecord [] h = .ok r ∧ r.Projects d asked columns := by
  have stores := stores_of_carries carries returned
  have member : ∀ e ∈ columns, ∃ f ∈ d.schema.fields, f.storeName.text = e.1 := by
    intro e he
    have among := List.mem_map_of_mem (f := Prod.fst) he
    rw [stores] at among
    obtain ⟨f, hf, same⟩ := List.mem_map.1 among
    exact ⟨f, declared f hf, same⟩
  have ready : ∀ e ∈ columns, d.Settable "" e := by
    intro e he
    obtain ⟨f, hf, same⟩ := member e he
    exact .inl ⟨f, hf, same, carries.reads f hf e.2 (same ▸ he)⟩
  -- no field is stored under the empty name, so that a distance of this name changes nothing
  obtain ⟨r, run, _, _, filled⟩ := setColumns_filled carries.flat
    (filled_nil (d := d) h.identifier (h.key d.schema)) empty_not_storeName ready
  rw [List.nil_append] at filled
  have distinct := setColumns_nodup (r := ⟨h.identifier, h.key d.schema, [], []⟩) .nil run
  refine ⟨r, ?_, projects_of_filled declared stores carries filled distinct⟩
  rw [setColumns_declared carries.flat member _ []] at run
  rw [sentRecord, record, SentHit.key, identifierFor_keyOf, ok_bind,
    if_neg (by rw [carries.flat.even]; decide)]
  exact run

end Decoder

/-! ## Plans and replies -/

namespace Compiler

variable {c : Compiler}

/-- For a plan without nearest neighbours, and replies that have a readable value for each of its
columns: every hit is decoded to a record with exactly the fields that the options ask for. -/
theorem decode_projected {node : Condition} {o : SearchOptions} {p : Plan} (settings : Settings)
    (free : node.nearestLeaves = []) (compiled : c.compile node o = .ok p) :
    ∃ asked, o.Asks c.schema asked ∧ p.scoreFields = []
      ∧ p.returnFields = asked.map (fun f => .text f.storeName.text)
      ∧ ∀ (hs : List (SentHit × Columns)) (reply count : Value) (total : Int),
        reply.items? = some (count :: hs.flatMap fun h => h.1.items c.schema) →
        Decoder.countOf count = .ok total →
        (∀ h ∈ hs, h.1.Carries ⟨c.schema, settings⟩ p h.2) →
        ∃ records, (Decoder.mk c.schema settings).decode p.scoreFields reply = .ok ⟨total, records⟩
          ∧ List.Forall₂ (fun h r => r.identifier = h.1.identifier ∧ r.key = h.1.key c.schema
            ∧ r.Projects ⟨c.schema, settings⟩ asked h.2) hs records := by
  obtain ⟨q, _, question, _, returned, _, _, _, scores, _⟩ := compile_eq_ok compiled
  have plain : q.scoreFields = [] := by
    obtain ⟨clause, none, question⟩ := bind_eq_ok.1 question
    rw [nearestClause?_of_none free] at none
    cases none
    obtain ⟨filter, _, question⟩ := bind_eq_ok.1 question
    cases question
    rfl
  rw [plain] at returned scores
  obtain ⟨asked, asks, columns⟩ := returnColumns_of_fields returned
  refine ⟨asked, asks, scores, columns, ?_⟩
  intro hs reply count total replied counted carries
  let d : Decoder := ⟨c.schema, settings⟩
  have one : ∀ h ∈ hs, ∃ r, d.sentRecord [] h.1 = .ok r ∧ (r.identifier = h.1.identifier
      ∧ r.key = h.1.key c.schema ∧ r.Projects d asked h.2) := by
    intro h hh
    obtain ⟨r, decoded, projects⟩ :=
      Decoder.sentRecord_projects (d := d) asks.declared columns (carries h hh)
    obtain ⟨identifier, key⟩ := Decoder.sentRecord_keeps decoded
    exact ⟨r, decoded, identifier, key, projects⟩
  obtain ⟨records, run, each⟩ := mapM_ok_of_forall one
  have sent : reply.items? = some (count :: (hs.map Prod.fst).flatMap (SentHit.items d.schema)) := by
    rw [replied, List.flatMap_map]
  have runs : (hs.map Prod.fst).mapM (d.sentRecord []) = .ok records := by
    rw [List.mapM_map]
    exact run
  refine ⟨records, ?_, each⟩
  rw [scores, Decoder.decode_sent sent counted, runs]
  rfl

/-! ## Names that change places -/

namespace Pairs

/-- A truth value and a tag, each stored under the other's name. -/
def flag : Field where
  name := ⟨"left", by decide⟩
  kind := .boolean
  storeName := ⟨"right", by decide⟩
  sortable := .bool false
  separator := .text "|"
  multi := .bool false

def label : Field where
  name := ⟨"right", by decide⟩
  kind := .tag
  storeName := ⟨"left", by decide⟩
  sortable := .bool false
  separator := .text "|"
  multi := .bool false

def schema : Schema where
  entityName := .text "Pair"
  fields := [flag, label]
  keyPrefix := "Pair:"
  indexName := .text "Pair:index"
  storage := .hash
  names_nodup := by decide
  storeNames_nodup := by decide
  keyPrefix_ne := by decide

def hit : SentHit := ⟨"7", false, some (.list [.text "left", .text "1", .text "right", .text "1"]),
  by simp [Value.items?]⟩

def columns : Columns := [("left", .text "1"), ("right", .text "1")]

end Pairs

theorem decode_projected_pair :
    ∃ p r, (Compiler.mk Pairs.schema {}).compile (.all [])
        { returnFields := .list [.text "right", .text "left"] } = .ok p
      ∧ p.returnFields = [.text "left", .text "right"]
      ∧ (Decoder.mk Pairs.schema {}).decode p.scoreFields (.list [.int 1, .text "Pair:7",
        .list [.text "left", .text "1", .text "right", .text "1"]]) = .ok ⟨1, [r]⟩
      ∧ r.fields.lookup "left" = some (.bool true) ∧ r.fields.lookup "right" = some (.text "1")
      ∧ r.extras = [] := by
  have planned : ∃ p, (Compiler.mk Pairs.schema {}).compile (.all [])
        { returnFields := .list [.text "right", .text "left"] } = .ok p
      ∧ p.returnFields = [.text "left", .text "right"] := ⟨_, rfl, rfl⟩
  obtain ⟨p, compiled, returned⟩ := planned
  obtain ⟨asked, asks, _, _, decodes⟩ := decode_projected {} rfl compiled
  have carries : Pairs.hit.Carries ⟨Pairs.schema, {}⟩ p Pairs.columns := by
    refine ⟨.cons rfl (.cons rfl .nil), returned.symm, ?_⟩
    intro f hf v hv
    simp only [Pairs.columns, List.mem_cons, Prod.mk.injEq, List.not_mem_nil, or_false] at hv
    simp only [Pairs.schema, List.mem_cons, List.not_mem_nil, or_false] at hf
    rcases hv with ⟨_, rfl⟩ | ⟨_, rfl⟩
    all_goals rcases hf with rfl | rfl
    all_goals exact ⟨_, rfl⟩
  obtain ⟨records, run, each⟩ := decodes [(Pairs.hit, Pairs.columns)] (.list [.int 1, .text "Pair:7",
    .list [.text "left", .text "1", .text "right", .text "1"]]) (.int 1) 1 rfl Decoder.countOf_one
    (by simpa using carries)
  obtain ⟨r, _, ⟨_, _, projects⟩, rest, rfl⟩ := List.forall₂_cons_left_iff.1 each
  rw [List.forall₂_nil_left_iff.1 rest] at run
  have among (f : Field) (declared : f ∈ Pairs.schema.fields)
      (named : f.name.text = "left" ∨ f.name.text = "right") : f ∈ asked := by
    have names := Except.ok.inj (asks.listed (by simp))
    have listed : Value.text f.name.text ∈ [Value.text "right", .text "left"] := by
      rcases named with same | same <;> simp [same]
    rw [names] at listed
    obtain ⟨g, hg, same⟩ := List.mem_map.1 listed
    rw [Schema.eq_of_name declared (asks.declared g hg) (Value.text.inj same).symm]
    exact hg
  refine ⟨p, r, compiled, returned, run, ?_, ?_, projects.bare⟩
  · obtain ⟨v, w, last, read, held⟩ := projects.values Pairs.flag
      (among _ (List.mem_cons_self ..) (.inl rfl))
    cases last
    cases read
    exact held
  · obtain ⟨v, w, last, read, held⟩ := projects.values Pairs.label
      (among _ (List.mem_cons_of_mem _ (List.mem_cons_self ..)) (.inr rfl))
    cases last
    cases read
    exact held

end Compiler

end TypedQuery
