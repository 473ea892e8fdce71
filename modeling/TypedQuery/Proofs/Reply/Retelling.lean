import TypedQuery.Proofs.Reply.Framing

/-! # Bytes or text

A client may hand over what a store says in bytes or, decoded, as text. Wherever a reply is read as
text the two are decoded alike: what differs at most is the wording of a refused count, which
shows the count as it was given. -/

namespace TypedQuery
set_option autoImplicit false

/-! ## Values -/

/-- A value and the same value again, where bytes may have become the text that they encode. -/
inductive Value.Retold : Value → Value → Prop
  | same (v : Value) : Retold v v
  | decoded {b : ByteArray} {s : String} : String.fromUTF8? b = some s → Retold (.bytes b) (.text s)

namespace Value.Retold

variable {v v' : Value}

theorem rawText_eq (told : v.Retold v') : rawText v = rawText v' := by
  cases told with
  | same => rfl
  | decoded valid =>
    rw [rawText, valid]
    rfl

theorem items?_eq (told : v.Retold v') : v.items? = v'.items? := by
  cases told <;> rfl

theorem of_text (s : String) : Retold (.bytes s.toUTF8) (.text s) := .decoded (fromUTF8?_toUTF8 s)

end Value.Retold

theorem readNumber_congr {words : Sentinels} {column : String} {v v' : Value}
    (same : rawText v = rawText v') : readNumber words column v = readNumber words column v' := by
  rw [readNumber, readNumber, same]

/-- But for vectors, a value is read by its text alone. -/
theorem coerce_congr {words : Sentinels} {f : Field} {v v' : Value} (plain : f.type ≠ .vector)
    (same : rawText v = rawText v') : coerce words f v = coerce words f v' := by
  unfold coerce
  cases type : f.type with
  | vector => exact absurd type plain
  | text | tag => simp only [same]
  | number => simp only [readNumber_congr same]
  | boolean => simp only [readBoolean, same]
  | geo => simp only [readPoint, same]
  | date => simp only [readDate, readNumber_congr same]

namespace Decoder

variable {d : Decoder} {scoreFields : List Value}

/-! ## Replies -/

/-- Are the values of a column read as text? Those of a declared field are, unless it is a vector,
and so are the distances that go by a name that no field is stored under. -/
def ReadsText (d : Decoder) (scoreFields : List Value) (column : String) : Prop :=
  (∃ f, d.schema.byStoreName? column = some f ∧ f.type ≠ .vector)
    ∨ (d.schema.byStoreName? column = none ∧ (Value.text column).isAmong scoreFields = true)

/-- A list of columns told again: the names, and the values of the columns that are read as text.
A name at the end may lack its value. -/
inductive RetoldColumns (d : Decoder) (scoreFields : List Value) : List Value → List Value → Prop
  | nil : RetoldColumns d scoreFields [] []
  | odd {name name' : Value} : name.Retold name' → RetoldColumns d scoreFields [name] [name']
  | kept {name name' v : Value} {rest rest' : List Value} :
    name.Retold name' → RetoldColumns d scoreFields rest rest' →
      RetoldColumns d scoreFields (name :: v :: rest) (name' :: v :: rest')
  | told {name name' v v' : Value} {column : String} {rest rest' : List Value} :
    name.Retold name' → rawText name = .ok column → d.ReadsText scoreFields column →
      v.Retold v' → RetoldColumns d scoreFields rest rest' →
      RetoldColumns d scoreFields (name :: v :: rest) (name' :: v' :: rest')

/-- The sequence of columns behind a key. -/
inductive RetoldArray (d : Decoder) (scoreFields : List Value) : Value → Value → Prop
  | list {columns columns' : List Value} : RetoldColumns d scoreFields columns columns' →
    RetoldArray d scoreFields (.list columns) (.list columns')
  | tuple {columns columns' : List Value} : RetoldColumns d scoreFields columns columns' →
    RetoldArray d scoreFields (.tuple columns) (.tuple columns')

/-- What follows the count: keys, each alone or with its columns. -/
inductive RetoldHits (d : Decoder) (scoreFields : List Value) : List Value → List Value → Prop
  | nil : RetoldHits d scoreFields [] []
  | keyOnly {key key' : Value} {rest rest' : List Value} :
    key.Retold key' → (∀ v ∈ rest.head?, v.items? = none) → RetoldHits d scoreFields rest rest' →
      RetoldHits d scoreFields (key :: rest) (key' :: rest')
  | withColumns {key key' array array' : Value} {rest rest' : List Value} :
    key.Retold key' → RetoldArray d scoreFields array array' →
      RetoldHits d scoreFields rest rest' →
      RetoldHits d scoreFields (key :: array :: rest) (key' :: array' :: rest')

/-- A whole reply told again; what is no sequence stays as it is. -/
inductive RetoldReply (d : Decoder) (scoreFields : List Value) : Value → Value → Prop
  | same (reply : Value) : RetoldReply d scoreFields reply reply
  | list {count count' : Value} {items items' : List Value} :
    count.Retold count' → RetoldHits d scoreFields items items' →
      RetoldReply d scoreFields (.list (count :: items)) (.list (count' :: items'))
  | tuple {count count' : Value} {items items' : List Value} :
    count.Retold count' → RetoldHits d scoreFields items items' →
      RetoldReply d scoreFields (.tuple (count :: items)) (.tuple (count' :: items'))

/-! ## Columns -/

theorem setColumn_told {r : Record} {column : String} {v v' : Value}
    (reads : d.ReadsText scoreFields column) (told : v.Retold v') :
    d.setColumn scoreFields r column v = d.setColumn scoreFields r column v' := by
  unfold setColumn
  rcases reads with ⟨f, found, plain⟩ | ⟨unknown, among⟩
  · simp only [found, coerce_congr plain told.rawText_eq]
  · rw [unknown]
    simp only [among, if_true, readNumber_congr told.rawText_eq]

theorem setColumns_retold {columns columns' : List Value}
    (told : d.RetoldColumns scoreFields columns columns') (r : Record) :
    d.setColumns scoreFields r columns = d.setColumns scoreFields r columns' := by
  induction told generalizing r with
  | nil => rfl
  | odd => rfl
  | kept name _ ih => simp only [setColumns, name.rawText_eq, ih]
  | told name spelled reads value _ ih =>
    simp only [setColumns, ← name.rawText_eq, spelled, ok_bind, setColumn_told reads value, ih]

theorem RetoldColumns.length_eq {columns columns' : List Value}
    (told : d.RetoldColumns scoreFields columns columns') : columns.length = columns'.length := by
  induction told with
  | nil => rfl
  | odd => rfl
  | kept _ _ ih | told _ _ _ _ _ ih => simp only [List.length_cons, ih]

theorem record_retold {columns columns' : List Value}
    (told : d.RetoldColumns scoreFields columns columns') (key : String) :
    d.record scoreFields key columns = d.record scoreFields key columns' := by
  simp only [record, told.length_eq, setColumns_retold told]

theorem RetoldArray.items? {array array' : Value}
    (told : d.RetoldArray scoreFields array array') : ∃ columns columns',
      array.items? = some columns ∧ array'.items? = some columns'
        ∧ d.RetoldColumns scoreFields columns columns' := by
  cases told with
  | list columns | tuple columns => exact ⟨_, _, rfl, rfl, columns⟩

/-! ## Hits -/

theorem RetoldHits.head? {items items' : List Value}
    (told : d.RetoldHits scoreFields items items') (plain : ∀ v ∈ items.head?, v.items? = none) :
    ∀ v ∈ items'.head?, v.items? = none := by
  intro v hv
  cases told with
  | nil => cases hv
  | keyOnly key _ _ | withColumns key _ _ =>
    cases hv
    rw [← key.items?_eq]
    exact plain _ rfl

/-- Told again, a reply is taken apart into the same hits, each of them told again. -/
theorem hits_retold {items items' : List Value} (told : d.RetoldHits scoreFields items items') :
    List.Forall₂ (fun h h' => h.1.Retold h'.1 ∧ d.RetoldColumns scoreFields h.2 h'.2)
      (hits items) (hits items') := by
  induction told with
  | nil => exact .nil
  | keyOnly key next rest ih =>
    rw [hits_keyOnly next, hits_keyOnly (rest.head? next)]
    exact .cons ⟨key, .nil⟩ ih
  | withColumns key array _ ih =>
    obtain ⟨columns, columns', taken, taken', told⟩ := array.items?
    rw [hits_withColumns taken, hits_withColumns taken']
    exact .cons ⟨key, told⟩ ih

theorem countOf_retold {count count' : Value} (told : count.Retold count') :
    countOf count = countOf count'
      ∨ countOf count = .error (.reply (.badCount count))
        ∧ countOf count' = .error (.reply (.badCount count')) := by
  cases told with
  | same => exact .inl rfl
  | @decoded b s valid =>
    have given : rawText (.bytes b) = .ok s := (Value.Retold.decoded valid).rawText_eq
    rw [countOf, countOf, given, rawText_text, ok_bind, ok_bind]
    cases readInt? s with
    | none => exact .inr ⟨rfl, rfl⟩
    | some n => exact .inl rfl

/-! ## Whole replies -/

theorem decode_of_retold {reply reply' count count' : Value} {items items' : List Value}
    (replied : reply.items? = some (count :: items))
    (replied' : reply'.items? = some (count' :: items')) (counts : count.Retold count')
    (told : d.RetoldHits scoreFields items items') :
    d.decode scoreFields reply = d.decode scoreFields reply'
      ∨ d.decode scoreFields reply = .error (.reply (.badCount count))
        ∧ d.decode scoreFields reply' = .error (.reply (.badCount count')) := by
  have each : List.Forall₂ (fun h h' : Value × List Value =>
      rawText h.1 >>= (d.record scoreFields · h.2) = rawText h'.1 >>= (d.record scoreFields · h'.2))
      (hits items) (hits items') := by
    refine (hits_retold told).imp fun h h' alike => ?_
    simp only [alike.1.rawText_eq, record_retold alike.2]
  have records := mapM_congr₂ each
  rw [decode_of_items replied, decode_of_items replied', records]
  rcases countOf_retold counts with same | ⟨bad, bad'⟩
  · exact .inl (by rw [same])
  · exact .inr (by rw [bad, bad']; exact ⟨rfl, rfl⟩)

/-- A reply in bytes and the same in text, at any of the places that are read as text, are decoded
to the same records, or refused with the same error, save that a count that is no number is shown as
it was given. -/
theorem decode_retold (d : Decoder) (scoreFields : List Value) {reply reply' : Value}
    (told : d.RetoldReply scoreFields reply reply') :
    d.decode scoreFields reply = d.decode scoreFields reply'
      ∨ ∃ count count' : Value, count.Retold count'
        ∧ d.decode scoreFields reply = .error (.reply (.badCount count))
        ∧ d.decode scoreFields reply' = .error (.reply (.badCount count')) := by
  cases told with
  | same => exact .inl rfl
  | list counts told | tuple counts told =>
    exact (decode_of_retold rfl rfl counts told).imp_right fun bad => ⟨_, _, counts, bad⟩

/-- A hat and its distance, sent in bytes: the record is the one that text would give. -/
theorem decode_retold_hat : (Decoder.mk Products.schema {}).decode [.text "distance"]
      (.list [.bytes "1".toUTF8, .bytes "Product:7".toUTF8, .list [.bytes "kind".toUTF8,
        .bytes "hat".toUTF8, .bytes "distance".toUTF8, .bytes "nan".toUTF8]])
    = .ok ⟨1, [⟨"7", "Product:7", [("kind", .text "hat")],
      [("distance", .double .notANumber)]⟩]⟩ := by
  have kind : ReadsText ⟨Products.schema, {}⟩ [.text "distance"] "kind" :=
    .inl ⟨Products.kind, rfl, by decide⟩
  have distance : ReadsText ⟨Products.schema, {}⟩ [.text "distance"] "distance" :=
    .inr ⟨rfl, by decide⟩
  have columns := RetoldColumns.told (.of_text "kind") (rawText_toUTF8 "kind") kind (.of_text "hat")
    (.told (.of_text "distance") (rawText_toUTF8 "distance") distance (.of_text "nan") .nil)
  have told := RetoldReply.list (.of_text "1")
    (.withColumns (.of_text "Product:7") (.list columns) .nil)
  have decoded : (Decoder.mk Products.schema {}).decode [.text "distance"] (.list [.text "1",
      .text "Product:7", .list [.text "kind", .text "hat", .text "distance", .text "nan"]])
      = .ok ⟨1, [⟨"7", "Product:7", [("kind", .text "hat")],
        [("distance", .double .notANumber)]⟩]⟩ := by
    rw [decode_of_items rfl, hits_withColumns rfl, hits]
    rfl
  rcases decode_retold ⟨Products.schema, {}⟩ [.text "distance"] told with same | ⟨_, _, _, _, refused⟩
  · rw [same, decoded]
  · rw [decoded] at refused
    cases refused

end Decoder

end TypedQuery
