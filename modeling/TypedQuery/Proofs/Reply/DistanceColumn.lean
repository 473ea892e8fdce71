import TypedQuery.Proofs.Query.NearestPlan
import TypedQuery.Proofs.Query.ReturnColumns
import TypedQuery.Proofs.Reply.ColumnSetting
import TypedQuery.Proofs.Reply.Framing

/-! # The distance column of a reply

A plan names its distance column, and decoding the reply finds the distance under that name, apart
from the fields. The one exception is a name that is also the store name of a declared field: the
column is then taken for that field's, and there is no distance. -/

namespace TypedQuery
set_option autoImplicit false

/-! ## Replies to a plan -/

/-- A hit of a reply: its key and its flat list, with the items and the columns of the list. -/
structure Hit where
  key : Value
  flat : Value
  items : List Value
  columns : Columns

/-- The hit has a key of the schema, and a value for every column of the plan, in order. -/
structure Hit.Answers (h : Hit) (s : Schema) (p : Plan) : Prop where
  key : ∃ t, rawText h.key = .ok t ∧ s.keyPrefix.toList.isPrefixOf t.toList = true
  flat : h.flat.items? = some h.items
  items : Decoder.Flat h.items h.columns
  columns : h.columns.map (fun e => Value.text e.1) = p.returnFields

/-- The values of the hit can be read: those of declared fields by the type of the field, and the
distance as a number. -/
structure Hit.Readable (h : Hit) (d : Decoder) (distance : String) : Prop where
  declared : ∀ f ∈ d.schema.fields, ∀ v, (f.storeName.text, v) ∈ h.columns →
    ∃ w, coerce d.settings.sentinels f v = .ok w
  measured : ∀ v, (distance, v) ∈ h.columns →
    ∃ x, readNumber d.settings.sentinels distance v = .ok x

/-- The record has the distance apart from the fields and as its score, and its fields are exactly
those that the options ask for. -/
structure Hit.Agrees (h : Hit) (d : Decoder) (o : SearchOptions) (distance : String) (r : Record) :
    Prop where
  key : rawText h.key = .ok r.key ∧ d.identifierFor r.key = .ok r.identifier
  measured : ∃ v x, h.columns.last? distance = some v
    ∧ readNumber d.settings.sentinels distance v = .ok x
    ∧ r.extras = [(distance, .double x)] ∧ r.score? = some x
  requested : ∀ f ∈ d.schema.fields, o.Requests distance f →
    ∃ v w, h.columns.last? f.storeName.text = some v
      ∧ coerce d.settings.sentinels f v = .ok w ∧ r.fields.lookup f.name.text = some w
  only : ∀ e ∈ r.fields, ∃ f ∈ d.schema.fields, o.Requests distance f ∧ f.name.text = e.1

namespace Decoder

variable {d : Decoder} {p : Plan} {h : Hit} {distance : String}

/-! ## Hits -/

theorem hits_answered {hs : List Hit} (answers : ∀ h ∈ hs, h.Answers d.schema p) :
    hits (hs.flatMap fun h => [h.key, h.flat]) = hs.map fun h => (h.key, h.items) := by
  induction hs with
  | nil => rfl
  | cons h rest ih =>
    have flat := (answers h (List.mem_cons_self ..)).flat
    have others := ih fun h' hh => answers h' (List.mem_cons_of_mem _ hh)
    rw [List.flatMap_cons, List.map_cons, ← others]
    exact hits_withColumns flat

def hitRecord (d : Decoder) (scoreFields : List Value) (h : Hit) : Result Record := do
  let key ← rawText h.key
  d.record scoreFields key h.items

theorem decode_answered {hs : List Hit} {reply count : Value} {scoreFields : List Value}
    (replied : reply.items? = some (count :: hs.flatMap fun h => [h.key, h.flat]))
    (answers : ∀ h ∈ hs, h.Answers d.schema p) :
    d.decode scoreFields reply = (do
      let total ← countOf count
      let records ← hs.mapM (d.hitRecord scoreFields)
      return ⟨total, records⟩) := by
  rw [decode_of_items replied, hits_answered answers, List.mapM_map]
  rfl

/-! ## One record -/

variable {c : Compiler} {o : SearchOptions}

/-- The columns of a plan are the distance and the columns of the fields asked for. -/
structure Covers (s : Schema) (o : SearchOptions) (distance : String) (columns : Columns) : Prop where
  measured : ∃ e ∈ columns, e.1 = distance
  known : ∀ e ∈ columns, e.1 = distance
    ∨ ∃ f ∈ s.fields, o.Requests distance f ∧ e.1 = f.storeName.text
  asked : ∀ f ∈ s.fields, o.Requests distance f → ∃ e ∈ columns, e.1 = f.storeName.text

theorem covers_of_answers (answers : h.Answers c.schema p)
    (returned : c.returnColumns o [.text distance] = .ok p.returnFields)
    (ne : p.returnFields ≠ []) : Covers c.schema o distance h.columns := by
  obtain ⟨measured, known, asked⟩ := Compiler.returnColumns_eq_ok returned ne
  rw [← answers.columns] at measured known asked
  have found : ∀ t, Value.text t ∈ h.columns.map (fun e => Value.text e.1) →
      ∃ e ∈ h.columns, e.1 = t := by
    intro t ht
    obtain ⟨e, he, same⟩ := List.mem_map.1 ht
    exact ⟨e, he, Value.text.inj same⟩
  refine ⟨found _ measured, ?_, fun f hf request => found _ (asked f hf request)⟩
  intro e he
  rcases known _ (List.mem_map_of_mem he) with same | ⟨f, hf, request, same⟩
  · exact .inl (Value.text.inj same)
  · exact .inr ⟨f, hf, request, Value.text.inj same⟩

theorem settable_of_readable (covers : Covers d.schema o distance h.columns)
    (readable : h.Readable d distance) : ∀ e ∈ h.columns, d.Settable distance e := by
  intro e he
  rcases covers.known e he with same | ⟨f, hf, _, same⟩
  · exact .inr ⟨same, readable.measured e.2 (by rw [← same]; exact he)⟩
  · exact .inl ⟨f, hf, same.symm, readable.declared f hf e.2 (by rw [← same]; exact he)⟩

theorem agrees_of_filled {r : Record} (apart : distance ∉ d.schema.storeNames)
    (covers : Covers d.schema o distance h.columns) (readable : h.Readable d distance)
    (filled : r.Filled d distance h.columns)
    (key : rawText h.key = .ok r.key ∧ d.identifierFor r.key = .ok r.identifier) :
    h.Agrees d o distance r := by
  refine ⟨key, ?_, ?_, ?_⟩
  · obtain ⟨e, he, rfl⟩ := covers.measured
    obtain ⟨v, last⟩ := Columns.last?_of_mem he
    obtain ⟨x, read, extras⟩ := filled.measured v last
    exact ⟨v, x, last, read, extras, by rw [Record.score?, extras]; rfl⟩
  · intro f hf request
    obtain ⟨e, he, same⟩ := covers.asked f hf request
    obtain ⟨v, last⟩ := Columns.last?_of_mem he
    rw [same] at last
    obtain ⟨w, read⟩ := readable.declared f hf v (Columns.mem_of_last? last)
    exact ⟨v, w, last, read, (filled.declared f hf w).2 ⟨v, last, read⟩⟩
  · intro e he
    obtain ⟨f, hf, named⟩ := filled.named e he
    refine ⟨f, hf, ?_, named⟩
    have held : (r.fields.lookup f.name.text).isSome = true :=
      List.lookup_isSome_iff.2 ⟨e, he, beq_iff_eq.2 named⟩
    obtain ⟨w, hw⟩ := Option.isSome_iff_exists.1 held
    obtain ⟨v, last, _⟩ := (filled.declared f hf w).1 hw
    rcases covers.known _ (Columns.mem_of_last? last) with same | ⟨g, hg, request, same⟩
    · exact absurd (same ▸ List.mem_map_of_mem hf) apart
    · rw [Schema.eq_of_storeName hf hg same]
      exact request

theorem record_agrees (apart : distance ∉ d.schema.storeNames)
    (answers : h.Answers d.schema p) (covers : Covers d.schema o distance h.columns)
    (readable : h.Readable d distance) :
    ∃ r, d.hitRecord [.text distance] h = .ok r ∧ h.Agrees d o distance r := by
  obtain ⟨key, raw, starts⟩ := answers.key
  have identified : ∃ identifier, d.identifierFor key = .ok identifier := by
    simp [identifierFor, starts]
  obtain ⟨identifier, identified⟩ := identified
  obtain ⟨r, run, sameIdentifier, sameKey, filled⟩ := setColumns_filled answers.items
    (filled_nil (d := d) identifier key) apart (settable_of_readable covers readable)
  rw [List.nil_append] at filled
  refine ⟨r, ?_, agrees_of_filled apart covers readable filled ?_⟩
  · simp [hitRecord, raw, record, identified, answers.items.even, run]
  · rw [sameKey, sameIdentifier]
    exact ⟨raw, identified⟩

theorem record_bare (declared : distance ∈ d.schema.storeNames) (answers : h.Answers d.schema p)
    (covers : Covers d.schema o distance h.columns) {scoreFields : List Value} {r : Record}
    (decoded : d.hitRecord scoreFields h = .ok r) : r.extras = [] := by
  obtain ⟨key, _, decoded⟩ := bind_eq_ok.1 decoded
  obtain ⟨identifier, _, decoded⟩ := bind_eq_ok.1 decoded
  have run : d.setColumns scoreFields ⟨identifier, key, [], []⟩ h.items = .ok r := by
    simpa [answers.items.even] using decoded
  refine setColumns_extras answers.items (fun e he => ?_) run
  rcases covers.known e he with same | ⟨f, hf, _, same⟩
  · rwa [same]
  · rw [same]
    exact List.mem_map_of_mem hf

end Decoder

/-! ## Plans and replies -/

namespace Compiler

variable {c : Compiler}

theorem scoreColumn_text {clause : NearestClause} {column : Value}
    (named : clause.scoreAlias = .null ∨ ∃ t, clause.scoreAlias = .text t)
    (h : c.scoreColumn clause = .ok column) : ∃ distance, column = .text distance := by
  unfold scoreColumn at h
  split at h
  · rename_i given
    cases h
    rcases named with null | text
    · rw [null] at given
      cases given
    · exact text
  · split at h
    · split at h
      · cases h
        exact ⟨_, rfl⟩
      · cases h
    · cases h

/-- For a plan of nearest neighbours that returns columns, and replies that have a value for each of
them: unless the distance column is the store name of a declared field, every hit is decoded to a
record with the distance and exactly the requested fields; and if it is, no record has a distance. -/
theorem decode_distance {node : Condition} {o : SearchOptions} {p : Plan} {target : Target}
    {k vector scoreAlias : Value} (settings : Settings)
    (once : node.nearestLeaves = [.leaf target (.nearest k vector scoreAlias)])
    (named : scoreAlias = .null ∨ ∃ t, scoreAlias = .text t)
    (compiled : c.compile node o = .ok p) (ne : p.returnFields ≠ []) :
    ∃ distance, p.scoreFields = [.text distance]
      ∧ ∀ (hs : List Hit) (reply count : Value) (total : Int),
        reply.items? = some (count :: hs.flatMap fun h => [h.key, h.flat]) →
        Decoder.countOf count = .ok total → (∀ h ∈ hs, h.Answers c.schema p) →
        (distance ∉ c.schema.storeNames →
          (∀ h ∈ hs, h.Readable ⟨c.schema, settings⟩ distance) →
          ∃ records, (Decoder.mk c.schema settings).decode p.scoreFields reply = .ok ⟨total, records⟩
            ∧ List.Forall₂ (fun h r => h.Agrees ⟨c.schema, settings⟩ o distance r) hs records)
        ∧ (distance ∈ c.schema.storeNames →
          ∀ decoded, (Decoder.mk c.schema settings).decode p.scoreFields reply = .ok decoded →
            ∀ r ∈ decoded.records, r.extras = [] ∧ r.score? = none) := by
  obtain ⟨q, _, asked, _, returned, _, _, _, scores, _⟩ := compile_eq_ok compiled
  obtain ⟨_, f, origin, params, rfl, _, _, _, filter, column, _, scored, _, _, _, _, _, _, rfl⟩ :=
    question_eq_ok once asked
  obtain ⟨distance, rfl⟩ := scoreColumn_text named scored
  refine ⟨distance, scores, ?_⟩
  intro hs reply count total replied counted answers
  have covers := fun h hh => Decoder.covers_of_answers (answers h hh) returned ne
  rw [scores, Decoder.decode_answered (d := ⟨c.schema, settings⟩) replied answers, counted, ok_bind]
  constructor
  · intro apart readable
    obtain ⟨records, run, agree⟩ := mapM_ok_of_forall fun h hh =>
      Decoder.record_agrees (d := ⟨c.schema, settings⟩) apart (answers h hh) (covers h hh)
        (readable h hh)
    exact ⟨records, by rw [run]; rfl, agree⟩
  · intro declared decoded run r hr
    obtain ⟨records, each, run⟩ := bind_eq_ok.1 run
    cases run
    obtain ⟨h, hh, one⟩ := exists_left_of_mem (mapM_eq_ok.1 each) hr
    have bare := Decoder.record_bare (d := ⟨c.schema, settings⟩) declared (answers h hh)
      (covers h hh) one
    exact ⟨bare, by rw [Record.score?, bare]; rfl⟩

def hatHit : Hit where
  key := .text "Product:1"
  flat := .list [.text "distance", .text "0.125", .text "kind", .text "hat"]
  items := [.text "distance", .text "0.125", .text "kind", .text "hat"]
  columns := [("distance", .text "0.125"), ("kind", .text "hat")]

theorem decode_distance_hat :
    ∃ p records, (Compiler.mk Products.schema {}).compile
        (Products.looksAlike (.text "distance")) { returnFields := .list [.text "kind"] } = .ok p
      ∧ (Decoder.mk Products.schema {}).decode p.scoreFields
        (.list [.int 1, hatHit.key, hatHit.flat]) = .ok ⟨1, records⟩
      ∧ List.Forall₂ (fun h r => h.Agrees ⟨Products.schema, {}⟩
        { returnFields := .list [.text "kind"] } "distance" r) [hatHit] records := by
  have planned : ∃ p, (Compiler.mk Products.schema {}).compile
        (Products.looksAlike (.text "distance")) { returnFields := .list [.text "kind"] } = .ok p
      ∧ p.scoreFields = [.text "distance"]
      ∧ p.returnFields = [.text "distance", .text "kind"] := ⟨_, rfl, rfl, rfl⟩
  obtain ⟨p, compiled, scores, returned⟩ := planned
  have once : (Products.looksAlike (.text "distance")).nearestLeaves
      = [Products.looksAlike (.text "distance")] := rfl
  obtain ⟨distance, same, decodes⟩ :=
    decode_distance {} once (.inr ⟨_, rfl⟩) compiled (by simp [returned])
  rw [scores] at same
  cases same
  have answers : ∀ h ∈ [hatHit], h.Answers Products.schema p := by
    intro h hh
    rw [List.mem_singleton.1 hh]
    refine ⟨⟨"Product:1", rfl, rfl⟩, rfl, .cons rfl (.cons rfl .nil), ?_⟩
    rw [returned]
    rfl
  have apart : "distance" ∉ Products.schema.storeNames := by decide
  have readable : ∀ h ∈ [hatHit], h.Readable ⟨Products.schema, {}⟩ "distance" := by
    intro h hh
    rw [List.mem_singleton.1 hh]
    constructor
    · intro f hf v hv
      simp only [hatHit, List.mem_cons, Prod.mk.injEq, List.not_mem_nil, or_false] at hv
      simp only [Products.schema, List.mem_cons, List.not_mem_nil, or_false] at hf
      rcases hf with rfl | rfl
      · rcases hv with ⟨e, _⟩ | ⟨_, rfl⟩
        · exact absurd e (by decide)
        · exact ⟨_, rfl⟩
      · rcases hv with ⟨e, _⟩ | ⟨e, _⟩
        · exact absurd e (by decide)
        · exact absurd e (by decide)
    · intro v hv
      simp only [hatHit, List.mem_cons, Prod.mk.injEq, List.not_mem_nil, or_false] at hv
      rcases hv with ⟨_, rfl⟩ | ⟨e, _⟩
      · exact ⟨_, rfl⟩
      · exact absurd e (by decide)
  obtain ⟨records, run, agree⟩ :=
    (decodes [hatHit] (.list [.int 1, hatHit.key, hatHit.flat]) (.int 1) 1 rfl Decoder.countOf_one
      answers).1 apart readable
  exact ⟨p, records, compiled, run, agree⟩

/-- Under the name of a declared field, the distance is taken for that field. -/
theorem kind_as_distance :
    ∃ p r, (Compiler.mk Products.schema {}).compile
        (Products.looksAlike (.text "kind")) { returnFields := .list [.text "image"] } = .ok p
      ∧ p.scoreFields = [.text "kind"] ∧ p.returnFields = [.text "kind", .text "image"]
      ∧ (Decoder.mk Products.schema {}).decode p.scoreFields
        (.list [.int 1, .text "Product:1",
          .list [.text "kind", .text "0.125", .text "image", .bytes ⟨#[0, 0, 0, 0]⟩]])
        = .ok ⟨1, [r]⟩
      ∧ r.extras = [] ∧ r.score? = none := by
  have planned : ∃ p, (Compiler.mk Products.schema {}).compile
        (Products.looksAlike (.text "kind")) { returnFields := .list [.text "image"] } = .ok p
      ∧ p.scoreFields = [.text "kind"]
      ∧ p.returnFields = [.text "kind", .text "image"] := ⟨_, rfl, rfl, rfl⟩
  have recorded : (Decoder.mk Products.schema {}).record [.text "kind"] "Product:1"
      [.text "kind", .text "0.125", .text "image", .bytes ⟨#[0, 0, 0, 0]⟩]
      = .ok ⟨"1", "Product:1", [("kind", .text "0.125"), ("image", .bytes ⟨#[0, 0, 0, 0]⟩)], []⟩ :=
    rfl
  obtain ⟨p, compiled, scores, returned⟩ := planned
  refine ⟨p, ⟨"1", "Product:1", [("kind", .text "0.125"), ("image", .bytes ⟨#[0, 0, 0, 0]⟩)], []⟩,
    compiled, scores, returned, ?_, rfl, rfl⟩
  rw [scores, Decoder.decode]
  simp only [Decoder.replyItems, Value.items?, ok_bind, Decoder.countOf_one, Decoder.hits, List.mapM_cons,
    List.mapM_nil, rawText_text, recorded, pure_eq_ok]

end Compiler

end TypedQuery
