import TypedQuery.Proofs.Condition.Built
import TypedQuery.Proofs.Number.IntegerReading
import TypedQuery.Proofs.Value.Writable
import TypedQuery.Reply.Decode

/-! # The framing of replies

A reply is a count and then, for every hit, a key with or without a list of columns behind it.
Whichever hits come with a list, the reply is taken apart into exactly the hits that were sent, and
it is decoded just when each of them is. -/

namespace TypedQuery
set_option autoImplicit false

theorem fromUTF8?_toUTF8 (s : String) : String.fromUTF8? s.toUTF8 = some s := by
  simpa [String.fromUTF8?] using ⟨s.isValidUTF8, rfl⟩

theorem rawText_toUTF8 (s : String) : rawText (.bytes s.toUTF8) = .ok s := by
  rw [rawText, fromUTF8?_toUTF8]

theorem rawText_text (s : String) : rawText (.text s) = .ok s := rfl

theorem Schema.makeKey_text (s : Schema) (identifier : String) :
    s.makeKey (.text identifier) = .ok (s.keyOf identifier) := rfl

/-! ## Hits as they are sent -/

/-- A hit in a reply: its key as text or as bytes and, if any, the sequence of column names and
values behind it. -/
structure SentHit where
  identifier : String
  keyInBytes : Bool
  array : Option Value
  flat : ∀ v ∈ array, v.items?.isSome

namespace SentHit

variable {s : Schema} {h h' : SentHit}

def key (s : Schema) (h : SentHit) : String := s.keyOf h.identifier

def keyValue (s : Schema) (h : SentHit) : Value :=
  if h.keyInBytes then .bytes (h.key s).toUTF8 else .text (h.key s)

/-- Column names and values; without a sequence there are none. -/
def columns (h : SentHit) : List Value := (h.array.bind Value.items?).getD []

def items (s : Schema) (h : SentHit) : List Value := h.keyValue s :: h.array.toList

/-- The same identifier and the same columns, however they are sent. -/
def Alike (h h' : SentHit) : Prop := h.identifier = h'.identifier ∧ h.columns = h'.columns

theorem keyValue_items? : (h.keyValue s).items? = none := by
  unfold keyValue
  split <;> rfl

theorem rawText_keyValue : rawText (h.keyValue s) = .ok (h.key s) := by
  unfold keyValue
  split
  · exact rawText_toUTF8 (h.key s)
  · rfl

theorem columns_of_none (bare : h.array = none) : h.columns = [] := by
  rw [columns, bare]
  rfl

theorem columns_of_some {v : Value} (sent : h.array = some v) : v.items? = some h.columns := by
  obtain ⟨items, hv⟩ := Option.isSome_iff_exists.1 (h.flat v (by rw [sent]; rfl))
  rw [columns, sent, Option.bind_some, hv]
  rfl

end SentHit

namespace Decoder

variable {d : Decoder} {scoreFields : List Value}

/-! ## Taking a reply apart -/

theorem hits_keyOnly {key : Value} {rest : List Value} (next : ∀ v ∈ rest.head?, v.items? = none) :
    hits (key :: rest) = (key, []) :: hits rest := by
  cases rest with
  | nil => rfl
  | cons v rest =>
    have plain : v.items? = none := next v rfl
    simp only [hits, plain]

theorem hits_withColumns {key v : Value} {columns rest : List Value}
    (sequence : v.items? = some columns) : hits (key :: v :: rest) = (key, columns) :: hits rest := by
  simp only [hits, sequence]

theorem head?_items (s : Schema) (hs : List SentHit) :
    ∀ v ∈ (hs.flatMap (SentHit.items s)).head?, v.items? = none := by
  intro v hv
  cases hs with
  | nil => cases hv
  | cons h rest =>
    rw [List.flatMap_cons, SentHit.items, List.cons_append, List.head?_cons, Option.mem_some_iff] at hv
    rw [← hv]
    exact SentHit.keyValue_items?

/-- The hits of a reply are those that were sent, each with its own columns. -/
theorem hits_sent (s : Schema) (hs : List SentHit) :
    hits (hs.flatMap (SentHit.items s)) = hs.map fun h => (h.keyValue s, h.columns) := by
  induction hs with
  | nil => rfl
  | cons h rest ih =>
    rw [List.flatMap_cons, List.map_cons, ← ih, SentHit.items]
    cases sent : h.array with
    | none =>
      -- what follows a key alone is the key of the next hit and no list
      rw [SentHit.columns_of_none sent]
      exact hits_keyOnly (head?_items s rest)
    | some v => exact hits_withColumns (SentHit.columns_of_some sent)

theorem decode_of_items {reply count : Value} {items : List Value}
    (replied : reply.items? = some (count :: items)) :
    d.decode scoreFields reply = (do
      let total ← countOf count
      let records ← (hits items).mapM fun (key, columns) => do
        let key ← rawText key
        d.record scoreFields key columns
      return ⟨total, records⟩) := by
  have taken : replyItems reply = .ok (count, items) := by rw [replyItems, replied]
  unfold decode
  rw [taken, ok_bind]

/-- The record of a hit that was sent. -/
def sentRecord (d : Decoder) (scoreFields : List Value) (h : SentHit) : Result Record :=
  d.record scoreFields (h.key d.schema) h.columns

theorem decode_sent {hs : List SentHit} {reply count : Value} {total : Int}
    (sent : reply.items? = some (count :: hs.flatMap (SentHit.items d.schema)))
    (counted : countOf count = .ok total) :
    d.decode scoreFields reply = (do
      let records ← hs.mapM (d.sentRecord scoreFields)
      return ⟨total, records⟩) := by
  have each : ∀ h : SentHit, (do
      let key ← rawText (h.keyValue d.schema)
      d.record scoreFields key h.columns) = d.sentRecord scoreFields h := by
    intro h
    rw [SentHit.rawText_keyValue]
    rfl
  rw [decode_of_items sent, counted, ok_bind, hits_sent, List.mapM_map]
  simp only [Function.comp_def, each]

/-- A count of usual size is read as it is. -/
theorem countOf_int {n : Nat} (small : n < 2 ^ 63) : countOf (.int n) = .ok n := by
  have digits : (decimalDigits (n : Int).natAbs).length ≤ 19 := by
    rw [Int.natAbs_natCast]
    exact length_decimalDigits_le 18 (by omega)
  have read := readInt?_intText (n := n) (Nat.le_trans digits (by decide))
  have shown : rawText (.int n) = .ok (intText n) := by
    refine Value.display_int (isShort_of_lt ?_)
    rw [Int.natAbs_natCast]
    exact Nat.lt_trans small (by decide)
  rw [countOf, shown, ok_bind, read]
  rfl

theorem countOf_one : countOf (.int 1) = .ok 1 := countOf_int (n := 1) (by decide)

/-! ## One record -/

theorem identifierFor_keyOf (identifier : String) :
    d.identifierFor (d.schema.keyOf identifier) = .ok identifier := by
  have chars : (d.schema.keyOf identifier).toList
      = d.schema.keyPrefix.toList ++ identifier.toList := String.toList_append
  simp [identifierFor, chars]

theorem keyOf_of_identifierFor {key identifier : String}
    (h : d.identifierFor key = .ok identifier) : d.schema.keyOf identifier = key := by
  unfold identifierFor at h
  dsimp only at h
  split at h
  · rename_i starts
    cases h
    obtain ⟨rest, split⟩ := List.isPrefixOf_iff_prefix.1 starts
    rw [← String.toList_inj, Schema.keyOf, String.toList_append, ← split]
    simp
  · cases h

theorem setColumn_keeps {r r' : Record} {name : String} {v : Value}
    (h : d.setColumn scoreFields r name v = .ok r') :
    r'.identifier = r.identifier ∧ r'.key = r.key := by
  unfold setColumn at h
  split at h
  · split at h
    · cases h
      exact ⟨rfl, rfl⟩
    · cases h
    · cases h
  · split at h
    · obtain ⟨x, _, h⟩ := bind_eq_ok.1 h
      cases h
      exact ⟨rfl, rfl⟩
    · cases h
      exact ⟨rfl, rfl⟩

theorem setColumns_keeps {items : List Value} {r r' : Record}
    (h : d.setColumns scoreFields r items = .ok r') :
    r'.identifier = r.identifier ∧ r'.key = r.key := by
  induction r, items using setColumns.induct with
  | case1 r name v rest ih =>
    obtain ⟨text, _, h⟩ := bind_eq_ok.1 h
    obtain ⟨r₁, set, h⟩ := bind_eq_ok.1 h
    have first := setColumn_keeps set
    have others := ih r₁ h
    exact ⟨others.1.trans first.1, others.2.trans first.2⟩
  | case2 items r short =>
    rw [setColumns] at h
    · cases h
      exact ⟨rfl, rfl⟩
    · exact short

theorem record_keeps {key : String} {columns : List Value} {r : Record}
    (h : d.record scoreFields key columns = .ok r) :
    d.identifierFor key = .ok r.identifier ∧ r.key = key := by
  obtain ⟨identifier, identified, h⟩ := bind_eq_ok.1 h
  split at h
  · cases h
  · have kept := setColumns_keeps h
    rw [kept.1, identified]
    exact ⟨rfl, kept.2⟩

theorem sentRecord_keeps {h : SentHit} {r : Record} (decoded : d.sentRecord scoreFields h = .ok r) :
    r.identifier = h.identifier ∧ r.key = h.key d.schema := by
  obtain ⟨identified, key⟩ := record_keeps decoded
  rw [SentHit.key, identifierFor_keyOf] at identified
  exact ⟨(Except.ok.inj identified).symm, key⟩

theorem sentRecord_bare {h : SentHit} (bare : h.columns = []) :
    d.sentRecord scoreFields h = .ok ⟨h.identifier, h.key d.schema, [], []⟩ := by
  rw [sentRecord, bare, record, SentHit.key, identifierFor_keyOf]
  rfl

theorem identifiers_eq {hs : List SentHit} {records : List Record}
    (each : List.Forall₂ (fun h r => r.identifier = h.identifier) hs records) :
    records.map Record.identifier = hs.map SentHit.identifier := by
  induction each with
  | nil => rfl
  | cons one _ ih => rw [List.map_cons, List.map_cons, one, ih]

/-! ## Whole replies -/

theorem decode_eq_ok {reply count : Value} {total : Int} {hs : List SentHit} {decoded : Decoded}
    (sent : reply.items? = some (count :: hs.flatMap (SentHit.items d.schema)))
    (counted : countOf count = .ok total) :
    d.decode scoreFields reply = .ok decoded ↔ decoded.total = total
      ∧ List.Forall₂ (fun h r => d.sentRecord scoreFields h = .ok r) hs decoded.records := by
  rw [decode_sent sent counted, bind_eq_ok]
  constructor
  · rintro ⟨records, each, made⟩
    cases made
    exact ⟨rfl, mapM_eq_ok.1 each⟩
  · rintro ⟨rfl, each⟩
    exact ⟨decoded.records, mapM_eq_ok.2 each, rfl⟩

theorem decode_eq_error {reply count : Value} {total : Int} {hs : List SentHit} {e : Error}
    (sent : reply.items? = some (count :: hs.flatMap (SentHit.items d.schema)))
    (counted : countOf count = .ok total) :
    d.decode scoreFields reply = .error e ↔ hs.mapM (d.sentRecord scoreFields) = .error e := by
  rw [decode_sent sent counted]
  cases hs.mapM (d.sentRecord scoreFields) with
  | error e' => simp
  | ok records => simp

theorem sentRecord_alike {h h' : SentHit} (same : h.Alike h') :
    d.sentRecord scoreFields h = d.sentRecord scoreFields h' := by
  rw [sentRecord, sentRecord, SentHit.key, SentHit.key, same.1, same.2]

theorem mapM_alike {hs others : List SentHit} (alike : List.Forall₂ SentHit.Alike hs others) :
    hs.mapM (d.sentRecord scoreFields) = others.mapM (d.sentRecord scoreFields) :=
  mapM_congr₂ (alike.imp fun _ _ => sentRecord_alike)

/-- A reply is decoded just when each of its hits is, to one record for each of them in their order;
otherwise it fails as the first hit that fails. How a key is sent, and whether no list or an empty one
is, makes no difference. -/
theorem decode_framed (d : Decoder) (scoreFields : List Value) {hs : List SentHit} {reply : Value}
    {total : Nat} (small : total < 2 ^ 63)
    (sent : reply.items? = some (.int total :: hs.flatMap (SentHit.items d.schema))) :
    ((∃ decoded, d.decode scoreFields reply = .ok decoded)
        ↔ ∀ h ∈ hs, ∃ r, d.record scoreFields (h.key d.schema) h.columns = .ok r)
      ∧ (∀ decoded, d.decode scoreFields reply = .ok decoded → decoded.total = total
        ∧ List.Forall₂ (fun h r => d.record scoreFields (h.key d.schema) h.columns = .ok r
          ∧ r.identifier = h.identifier ∧ r.key = h.key d.schema) hs decoded.records)
      ∧ (∀ e, d.decode scoreFields reply = .error e ↔ ∃ before h after, hs = before ++ h :: after
        ∧ (∀ b ∈ before, ∃ r, d.record scoreFields (b.key d.schema) b.columns = .ok r)
        ∧ d.record scoreFields (h.key d.schema) h.columns = .error e)
      ∧ (∀ (others : List SentHit) (again : Value), List.Forall₂ SentHit.Alike hs others →
        again.items? = some (.int total :: others.flatMap (SentHit.items d.schema)) →
        d.decode scoreFields again = d.decode scoreFields reply)
      ∧ ∀ key identifier, d.identifierFor key = .ok identifier →
        d.schema.makeKey (.text identifier) = .ok key := by
  have counted := countOf_int small
  refine ⟨?_, ?_, ?_, ?_, fun key identifier found => ?_⟩
  · constructor
    · rintro ⟨decoded, run⟩ h hh
      obtain ⟨r, _, one⟩ := exists_right_of_mem ((decode_eq_ok sent counted).1 run).2 hh
      exact ⟨r, one⟩
    · intro each
      obtain ⟨records, _, all⟩ := mapM_ok_of_forall (f := d.sentRecord scoreFields)
        (R := fun h r => d.sentRecord scoreFields h = .ok r) fun h hh => by
          obtain ⟨r, one⟩ := each h hh
          exact ⟨r, one, one⟩
      exact ⟨⟨total, records⟩, (decode_eq_ok sent counted).2 ⟨rfl, all⟩⟩
  · intro decoded run
    obtain ⟨same, each⟩ := (decode_eq_ok sent counted).1 run
    exact ⟨same, each.imp fun h r one => ⟨one, sentRecord_keeps one⟩⟩
  · intro e
    rw [decode_eq_error sent counted]
    exact mapM_eq_error
  · intro others again alike sentAgain
    rw [decode_sent sent counted, decode_sent sentAgain counted, mapM_alike alike]
  · rw [Schema.makeKey_text, keyOf_of_identifierFor found]

/-- Three products: one by its key alone, one with its kind, one with an empty list. -/
theorem decode_framed_products :
    ∃ decoded, (Decoder.mk Products.schema {}).decode [] (.list [.int 3, .bytes "Product:1".toUTF8,
        .text "Product:2", .list [.text "kind", .text "hat"], .text "Product:3", .list []])
        = .ok decoded
      ∧ decoded.total = 3 ∧ decoded.ids = ["1", "2", "3"] := by
  let hs : List SentHit := [⟨"1", true, none, by simp⟩,
    ⟨"2", false, some (.list [.text "kind", .text "hat"]), by simp [Value.items?]⟩,
    ⟨"3", false, some (.list []), by simp [Value.items?]⟩]
  have sent : (Value.list [.int 3, .bytes "Product:1".toUTF8, .text "Product:2",
      .list [.text "kind", .text "hat"], .text "Product:3", .list []]).items?
      = some (.int (3 : Nat) :: hs.flatMap (SentHit.items Products.schema)) := rfl
  have framed := decode_framed ⟨Products.schema, {}⟩ [] (by decide) sent
  obtain ⟨decoded, run⟩ := framed.1.2 (by
    simp only [hs, List.mem_cons, List.not_mem_nil, or_false, forall_eq_or_imp, forall_eq]
    exact ⟨⟨_, rfl⟩, ⟨_, rfl⟩, ⟨_, rfl⟩⟩)
  obtain ⟨total, records⟩ := framed.2.1 decoded run
  have ids := identifiers_eq (records.imp fun h r one => one.2.1)
  exact ⟨decoded, run, total, ids⟩

end Decoder

end TypedQuery
