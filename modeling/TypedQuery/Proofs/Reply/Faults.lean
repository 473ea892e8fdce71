import TypedQuery.Proofs.Reply.Framing
import TypedQuery.Proofs.Schema.Lookup

/-! # How decoding fails

A reply that cannot be decoded is refused as a fault of the reply or as a key without the prefix. There
are two exceptions. A text of a field of several tags is a misuse of their separator if this one
separates nothing, and a reply with an integer that is too long to be written may be a misuse too. -/

namespace TypedQuery
set_option autoImplicit false

/-- The faults that a reply may have. -/
inductive Error.OfReply : Error → Prop
  | fault (fault : ReplyFault) : OfReply (.reply fault)
  | key (key expected : String) : OfReply (.keyPrefix key expected)

/-! ## Separators -/

/-- Tags are the words of a text, or they stand between separators. -/
def Value.SeparatesTags (separator : Value) : Prop :=
  separator = .null ∨ ∃ t, separator = .text t ∧ t ≠ ""

/-- The misuse of a separator that separates nothing. -/
def Value.separatorMisuse : Value → Misuse
  | .text _ => .badValue
  | _ => .wrongType

/-- Only a field of several tags needs a separator. -/
def Field.Separates (f : Field) : Prop :=
  f.type = .tag → f.multi.truthy = true → f.separator.SeparatesTags

namespace Products

def tags (separator : Value) : Field where
  name := ⟨"tags", by decide⟩
  kind := .tag
  storeName := ⟨"tags", by decide⟩
  sortable := .bool false
  separator := separator
  multi := .bool true

def tagged (separator : Value) : Schema where
  entityName := .text "Product"
  fields := [tags separator]
  keyPrefix := "Product:"
  indexName := .text "Product:index"
  storage := .hash
  names_nodup := List.nodup_singleton _
  storeNames_nodup := List.nodup_singleton _
  keyPrefix_ne := schema.keyPrefix_ne

end Products

variable {separator : Value} {f : Field}

theorem readTags_separated (separates : separator.SeparatesTags) (text : String) :
    ∃ tags, readTags separator text = .ok tags := by
  unfold readTags
  split
  · exact ⟨_, rfl⟩
  · rcases separates with rfl | ⟨t, rfl, ne⟩
    · exact ⟨_, rfl⟩
    · dsimp only
      rw [if_neg ne]
      exact ⟨_, rfl⟩

theorem readTags_unseparated (bad : ¬ separator.SeparatesTags) {text : String} (ne : text ≠ "") :
    readTags separator text = .error (.misuse separator.separatorMisuse) := by
  unfold readTags
  rw [if_neg ne]
  cases separator with
  | null => exact absurd (.inl rfl) bad
  | text t =>
    have empty : t = "" := by
      by_contra some
      exact bad (.inr ⟨t, rfl, some⟩)
    rw [empty]
    rfl
  | _ => rfl

/-! ## Single values -/

/-- Whatever text is read, the tags of the field fail only so. -/
def Field.TagsFailOnly (fault : Error → Prop) (f : Field) : Prop :=
  f.type = .tag → f.multi.truthy = true → ∀ text, FailsOnly fault (readTags f.separator text)

theorem Field.Separates.tagsFailOnly {fault : Error → Prop} (separates : f.Separates) :
    f.TagsFailOnly fault := by
  intro tag several text
  obtain ⟨tags, read⟩ := readTags_separated (separates tag several) text
  rw [read]
  exact failsOnly_ok

/-- If the value cannot be written, then that is such an error. -/
def Value.WritingFailsOnly (fault : Error → Prop) (v : Value) : Prop :=
  v.isWritable = false → fault (.misuse .badValue)

section Faults

variable {fault : Error → Prop} {v : Value}

theorem Value.display_failsOnly (writing : v.WritingFailsOnly fault) : FailsOnly fault v.display := by
  intro e failed
  obtain ⟨rfl, long⟩ := v.display_decides.of_error failed
  exact writing long

theorem Value.WritingFailsOnly.of_mem {items : List Value} (writing : v.WritingFailsOnly fault)
    (sequence : v.items? = some items) : ∀ w ∈ items, w.WritingFailsOnly fault := by
  intro w hw long
  refine writing ?_
  rw [← Bool.not_eq_true, isWritable_of_items sequence]
  intro written
  exact absurd ((written w hw).symm.trans long) nofun

variable (reported : ∀ e, e.OfReply → fault e)
include reported

/-- A fault that shows the value is raised, unless the value cannot be written. -/
theorem refuse_failsOnly {α : Type} {given : ReplyFault}
    (worded : (Error.reply given).message?.isSome = v.isWritable) (writing : v.WritingFailsOnly fault) :
    FailsOnly fault (refuse (α := α) (.reply given)) := by
  refine failsOnly_error ?_
  rw [Error.raised, worded]
  split
  · exact reported _ (.fault _)
  · rename_i long
    exact writing (Bool.not_eq_true _ ▸ long)

theorem rawText_failsOnly (writing : v.WritingFailsOnly fault) : FailsOnly fault (rawText v) := by
  unfold rawText
  split
  · split
    · exact failsOnly_ok
    · exact failsOnly_error (reported _ (.fault _))
  · exact Value.display_failsOnly writing

theorem readNumber_failsOnly (words : Sentinels) (column : String)
    (writing : v.WritingFailsOnly fault) : FailsOnly fault (readNumber words column v) := by
  refine (rawText_failsOnly reported writing).bind fun text _ => ?_
  dsimp only
  split
  · exact failsOnly_ok
  · split
    · exact failsOnly_ok
    · exact failsOnly_error (reported _ (.fault _))

theorem readBoolean_failsOnly (column : String) (writing : v.WritingFailsOnly fault) :
    FailsOnly fault (readBoolean column v) := by
  refine (rawText_failsOnly reported writing).bind fun text _ => ?_
  dsimp only
  split
  · exact failsOnly_ok
  · split
    · exact failsOnly_ok
    · exact failsOnly_error (reported _ (.fault _))

theorem readPoint_failsOnly (column : String) (writing : v.WritingFailsOnly fault) :
    FailsOnly fault (readPoint column v) := by
  refine (rawText_failsOnly reported writing).bind fun text _ => ?_
  split
  · exact failsOnly_ok
  · exact failsOnly_error (reported _ (.fault _))

theorem readDate_failsOnly (words : Sentinels) (column : String)
    (writing : v.WritingFailsOnly fault) : FailsOnly fault (readDate words column v) := by
  refine (readNumber_failsOnly reported words column writing).bind fun x _ => ?_
  by_cases infinite : (!x.isFinite) = true
  · rw [if_pos infinite]
    exact failsOnly_error (reported _ (.fault _))
  · rw [if_neg infinite]
    dsimp only
    split
    · exact failsOnly_ok
    · exact failsOnly_error (reported _ (.fault _))

theorem coerce_failsOnly (words : Sentinels) (tags : f.TagsFailOnly fault)
    (writing : v.WritingFailsOnly fault) : FailsOnly fault (coerce words f v) := by
  have text := rawText_failsOnly reported writing
  unfold coerce
  dsimp only
  split
  · exact text.bind fun _ _ => failsOnly_ok
  · rename_i tag
    refine text.bind fun text _ => ?_
    split
    · rename_i several
      exact (tags tag several text).bind fun _ _ => failsOnly_ok
    · exact failsOnly_ok
  · exact (readNumber_failsOnly reported words _ writing).bind fun _ _ => failsOnly_ok
  · exact (readBoolean_failsOnly reported _ writing).bind fun _ _ => failsOnly_ok
  · exact (readPoint_failsOnly reported _ writing).bind fun _ _ => failsOnly_ok
  · exact (readDate_failsOnly reported words _ writing).bind fun _ _ => failsOnly_ok
  · exact failsOnly_ok

end Faults

theorem coerce_unseparated (words : Sentinels) (bad : ¬ f.Separates) {text : String}
    (ne : text ≠ "") :
    coerce words f (.text text) = .error (.misuse f.separator.separatorMisuse) := by
  have tags : f.type = .tag ∧ f.multi.truthy = true ∧ ¬ f.separator.SeparatesTags := by
    simpa [Field.Separates] using bad
  obtain ⟨tag, several, bad⟩ := tags
  simp [coerce, tag, several, rawText_text, readTags_unseparated bad ne]

/-! ## Records -/

namespace Decoder

variable {d : Decoder} {scoreFields : List Value}

theorem items?_of_replyItems {reply first : Value} {rest : List Value}
    (h : replyItems reply = .ok (first, rest)) : reply.items? = some (first :: rest) := by
  unfold replyItems at h
  split at h
  · rename_i found
    cases h
    exact found
  · cases h

/-- The keys and the columns of hits are members of the reply and of lists in it. -/
theorem mem_hits {items : List Value} {hit : Value × List Value} (h : hit ∈ hits items) :
    hit.1 ∈ items ∧ ∀ v ∈ hit.2, ∃ w ∈ items, w.items? = some hit.2 := by
  induction items using hits.induct with
  | case1 => cases h
  | case2 key =>
    cases List.mem_singleton.1 h
    exact ⟨List.mem_singleton_self _, nofun⟩
  | case3 key next rest columns sequence ih =>
    rw [hits_withColumns sequence] at h
    rcases List.mem_cons.1 h with rfl | h
    · exact ⟨List.mem_cons_self .., fun _ _ => ⟨next, by simp, sequence⟩⟩
    · obtain ⟨among, listed⟩ := ih h
      refine ⟨by simp [among], fun v hv => ?_⟩
      obtain ⟨w, hw, same⟩ := listed v hv
      exact ⟨w, by simp [hw], same⟩
  | case4 key next rest plain ih =>
    rw [hits_keyOnly (by simpa using plain)] at h
    rcases List.mem_cons.1 h with rfl | h
    · exact ⟨List.mem_cons_self .., nofun⟩
    · obtain ⟨among, listed⟩ := ih h
      refine ⟨List.mem_cons_of_mem _ among, fun v hv => ?_⟩
      obtain ⟨w, hw, same⟩ := listed v hv
      exact ⟨w, List.mem_cons_of_mem _ hw, same⟩

section Faults

variable {fault : Error → Prop} (reported : ∀ e, e.OfReply → fault e)
  (tags : ∀ f ∈ d.schema.fields, f.TagsFailOnly fault)
include reported

theorem identifierFor_failsOnly (key : String) : FailsOnly fault (d.identifierFor key) := by
  unfold identifierFor
  dsimp only
  split
  · exact failsOnly_ok
  · exact failsOnly_error (reported _ (.key _ _))

theorem replyItems_failsOnly {reply : Value} (writing : reply.WritingFailsOnly fault) :
    FailsOnly fault (replyItems reply) := by
  unfold replyItems
  split
  · exact failsOnly_ok
  · refine refuse_failsOnly reported ?_ writing
    rw [← Value.isSome_literal?, Error.message?, ReplyFault.message?]
    cases reply.literal? <;> rfl

theorem countOf_failsOnly {v : Value} (writing : v.WritingFailsOnly fault) :
    FailsOnly fault (countOf v) := by
  refine (rawText_failsOnly reported writing).bind fun text _ => ?_
  split
  · exact failsOnly_ok
  · refine refuse_failsOnly reported ?_ writing
    rw [← Value.isSome_literal?, Error.message?, ReplyFault.message?]
    cases v.literal? <;> rfl

include tags

theorem setColumn_failsOnly (r : Record) (name : String) {v : Value}
    (writing : v.WritingFailsOnly fault) : FailsOnly fault (d.setColumn scoreFields r name v) := by
  unfold setColumn
  split
  · rename_i f found
    have fails := coerce_failsOnly reported d.settings.sentinels
      (tags f (Schema.byStoreName?_eq_some found).1) writing
    split
    · exact failsOnly_ok
    · exact failsOnly_error (reported _ (.fault _))
    · rename_i e _ failed
      exact failsOnly_error (fails e failed)
  · split
    · exact (readNumber_failsOnly reported _ _ writing).bind fun _ _ => failsOnly_ok
    · exact failsOnly_ok

theorem setColumns_failsOnly (r : Record) (items : List Value)
    (writing : ∀ v ∈ items, v.WritingFailsOnly fault) :
    FailsOnly fault (d.setColumns scoreFields r items) := by
  induction r, items using setColumns.induct with
  | case1 r name v rest ih =>
    rw [List.forall_mem_cons, List.forall_mem_cons] at writing
    rw [setColumns]
    refine (rawText_failsOnly reported writing.1).bind fun text _ => ?_
    exact (setColumn_failsOnly reported tags r text writing.2.1).bind fun r' _ => ih r' writing.2.2
  | case2 items r short =>
    rw [setColumns]
    · exact failsOnly_ok
    · exact short

theorem record_failsOnly (key : String) {columns : List Value}
    (writing : ∀ v ∈ columns, v.WritingFailsOnly fault) :
    FailsOnly fault (d.record scoreFields key columns) := by
  unfold record
  refine (identifierFor_failsOnly reported key).bind fun identifier _ => ?_
  split
  · exact failsOnly_error (reported _ (.fault _))
  · exact setColumns_failsOnly reported tags _ columns writing

theorem decode_failsOnly {reply : Value} (writing : reply.WritingFailsOnly fault) :
    FailsOnly fault (d.decode scoreFields reply) := by
  unfold decode
  refine (replyItems_failsOnly reported writing).bind fun (first, rest) taken => ?_
  have members := writing.of_mem (items?_of_replyItems taken)
  rw [List.forall_mem_cons] at members
  refine (countOf_failsOnly reported members.1).bind fun total _ => ?_
  refine (failsOnly_mapM fun (key, columns) hit => ?_).bind fun records _ => failsOnly_ok
  obtain ⟨among, listed⟩ := mem_hits hit
  refine (rawText_failsOnly reported (members.2 key among)).bind fun text _ => ?_
  refine record_failsOnly reported tags text fun v hv => ?_
  obtain ⟨w, hw, sequence⟩ := listed v hv
  exact (members.2 w hw).of_mem sequence v hv

end Faults

/-! ## Replies -/

/-- If the fields of several tags have separators, then decoding any reply gives records or fails as a
fault of the reply or as a key without the prefix; only a reply with an integer that is too long to be
written may fail as a misuse. A field of several tags whose separator separates nothing makes decoding
fail as a misuse of the separator. -/
theorem decode_faults (s : Schema) (settings : Settings) (scoreFields : List Value) :
    ((∀ f ∈ s.fields, f.Separates) → ∀ reply,
        (∃ decoded, (Decoder.mk s settings).decode scoreFields reply = .ok decoded)
          ∨ (∃ e, e.OfReply ∧ (Decoder.mk s settings).decode scoreFields reply = .error e)
          ∨ (reply.isWritable = false
            ∧ (Decoder.mk s settings).decode scoreFields reply = .error (.misuse .badValue)))
      ∧ ∀ f ∈ s.fields, ¬ f.Separates → ∀ identifier tags : String, tags ≠ "" →
        (Decoder.mk s settings).decode scoreFields (.list [.int 1, .text (s.keyOf identifier),
          .list [.text f.storeName.text, .text tags]])
          = .error (.misuse f.separator.separatorMisuse) := by
  constructor
  · intro separates reply
    have fails : FailsOnly (fun e => e.OfReply ∨ (reply.isWritable = false ∧ e = .misuse .badValue))
        ((Decoder.mk s settings).decode scoreFields reply) :=
      decode_failsOnly (fun _ found => .inl found) (fun f hf => (separates f hf).tagsFailOnly)
        fun long => .inr ⟨long, rfl⟩
    cases outcome : (Decoder.mk s settings).decode scoreFields reply with
    | ok decoded => exact .inl ⟨decoded, rfl⟩
    | error e =>
      rcases fails e outcome with found | ⟨long, rfl⟩
      · exact .inr (.inl ⟨e, found, rfl⟩)
      · exact .inr (.inr ⟨long, rfl⟩)
  · intro f declared bad identifier tags ne
    -- a reply of one hit, which fails at its only column
    have sent : (Value.list [.int 1, .text (s.keyOf identifier),
        .list [.text f.storeName.text, .text tags]]).items? = some (.int (1 : Nat)
          :: [SentHit.mk identifier false (some (.list [.text f.storeName.text, .text tags]))
            (by simp [Value.items?])].flatMap (SentHit.items s)) := rfl
    have failed := coerce_unseparated settings.sentinels bad ne
    rw [decode_eq_error (d := ⟨s, settings⟩) sent (countOf_int (by decide)), mapM_eq_error]
    refine ⟨[], _, [], rfl, by simp, ?_⟩
    have identified := identifierFor_keyOf (d := ⟨s, settings⟩) identifier
    simp only [sentRecord, SentHit.key, SentHit.columns, Option.bind_some, Value.items?,
      Option.getD_some, record, identified, ok_bind]
    simp [setColumns, setColumn, rawText_text, Schema.byStoreName?_of_mem declared, failed]

theorem decode_faults_tagged :
    (∃ e, e.OfReply ∧ (Decoder.mk (Products.tagged (.text "|")) {}).decode [] .null = .error e)
      ∧ (Decoder.mk (Products.tagged (.text "")) {}).decode [] (.list [.int 1, .text "Product:1",
          .list [.text "tags", .text "sale"]]) = .error (.misuse .badValue) := by
  constructor
  · have separates : ∀ f ∈ (Products.tagged (.text "|")).fields, f.Separates := by
      intro f hf _ _
      rw [List.mem_singleton.1 hf]
      exact .inr ⟨"|", rfl, by decide⟩
    rcases (decode_faults (Products.tagged (.text "|")) {} []).1 separates .null with
      ⟨_, run⟩ | failed | ⟨long, _⟩
    · cases run
    · exact failed
    · cases long
  · have bad : ¬ (Products.tags (.text "")).Separates := by
      intro separates
      obtain none | ⟨t, same, ne⟩ := separates rfl rfl
      · cases none
      · cases same
        exact ne rfl
    exact (decode_faults (Products.tagged (.text "")) {} []).2 _ (List.mem_cons_self ..) bad "1" "sale"
      (by decide)

/-- A declaration may give the empty text as a separator; decoding a tag is then a misuse of it. -/
theorem tags_without_separator :
    ∃ s, Schema.ofDeclarations (.text "Product") [(.text "tags",
          .map [(.text "type", .text "string[]"), (.text "separator", .text "")])] {} = .ok s
      ∧ (Decoder.mk s {}).decode [] (.list [.int 1, .text "Product:1",
          .list [.text "tags", .text "sale"]]) = .error (.misuse .badValue) := by
  have failed : (Decoder.mk (Products.tagged (.text "")) {}).record [] "Product:1"
      [.text "tags", .text "sale"] = .error (.misuse .badValue) := rfl
  refine ⟨Products.tagged (.text ""), rfl, ?_⟩
  rw [decode]
  simp only [replyItems, Value.items?, ok_bind, countOf_one, hits, List.mapM_cons, rawText_text,
    failed, error_bind]

end Decoder

end TypedQuery
