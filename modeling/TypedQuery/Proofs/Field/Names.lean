import TypedQuery.Field.Declaration
import TypedQuery.Proofs.Outcome
import TypedQuery.Query.Escape

/-! # The alphabet of field names

A field name is a word over an alphabet of its own, or such a word with a line break at its end. Fields
are only made with such names: the name that is given, and a store name that is given or is the same. -/

namespace TypedQuery
set_option autoImplicit false

/-! ## Characters -/

/-- The letters, digits and marks that names are made of. -/
def FieldChar (c : Char) : Prop :=
  ('a' ≤ c ∧ c ≤ 'z') ∨ ('A' ≤ c ∧ c ≤ 'Z') ∨ ('0' ≤ c ∧ c ≤ '9')
    ∨ c ∈ ['_', '-', '.', '$', '[', ']', '*']

def FieldStart (c : Char) : Prop := ('a' ≤ c ∧ c ≤ 'z') ∨ ('A' ≤ c ∧ c ≤ 'Z') ∨ c = '_' ∨ c = '$'

instance : DecidablePred FieldChar := fun _ => inferInstanceAs (Decidable (_ ∨ _))

instance : DecidablePred FieldStart := fun _ => inferInstanceAs (Decidable (_ ∨ _))

variable {c : Char} {s w : String}

theorem isAlpha_iff : c.isAlpha = true ↔ ('a' ≤ c ∧ c ≤ 'z') ∨ ('A' ≤ c ∧ c ≤ 'Z') := by
  have parts : c.isAlpha = (decide ('A' ≤ c ∧ c ≤ 'Z') || decide ('a' ≤ c) && decide (c ≤ 'z')) := rfl
  rw [parts, Bool.or_eq_true, Bool.and_eq_true, decide_eq_true_eq, decide_eq_true_eq,
    decide_eq_true_eq, or_comm]

theorem isAlphanum_iff :
    c.isAlphanum = true ↔ ('a' ≤ c ∧ c ≤ 'z') ∨ ('A' ≤ c ∧ c ≤ 'Z') ∨ ('0' ≤ c ∧ c ≤ '9') := by
  have parts : c.isAlphanum = (c.isAlpha || decide ('0' ≤ c) && decide (c ≤ '9')) := rfl
  rw [parts, Bool.or_eq_true, Bool.and_eq_true, isAlpha_iff, decide_eq_true_eq, decide_eq_true_eq,
    or_assoc]

theorem startsFieldName_iff : startsFieldName c = true ↔ FieldStart c := by
  rw [startsFieldName, Bool.or_eq_true, Bool.or_eq_true, isAlpha_iff, decide_eq_true_eq,
    decide_eq_true_eq, or_assoc, or_assoc]
  exact Iff.rfl

theorem continuesFieldName_iff : continuesFieldName c = true ↔ FieldChar c := by
  rw [continuesFieldName, Bool.or_eq_true, isAlphanum_iff, List.contains_iff_mem, or_assoc, or_assoc]
  exact Iff.rfl

theorem FieldStart.char (start : FieldStart c) : FieldChar c := by
  rcases start with lower | upper | rfl | rfl
  · exact .inl lower
  · exact .inr (.inl upper)
  · decide
  · decide

theorem char_le_iff {a b : Char} : a ≤ b ↔ a.toNat ≤ b.toNat := UInt32.le_iff_toNat_le

theorem isBlank_graphic (low : 33 ≤ c.toNat) (high : c.toNat < 127) : isBlank c = false := by
  rw [Bool.eq_false_iff]
  intro blank
  simp only [isBlank, inRanges, blankRanges, List.any_cons, List.any_nil, Bool.or_false,
    Bool.or_eq_true, Bool.and_eq_true, decide_eq_true_eq] at blank
  omega

theorem FieldChar.graphic (known : FieldChar c) : 33 ≤ c.toNat ∧ c.toNat < 127 := by
  rcases known with lower | upper | digit | mark
  · have bounds : 97 ≤ c.toNat ∧ c.toNat ≤ 122 := ⟨char_le_iff.1 lower.1, char_le_iff.1 lower.2⟩
    omega
  · have bounds : 65 ≤ c.toNat ∧ c.toNat ≤ 90 := ⟨char_le_iff.1 upper.1, char_le_iff.1 upper.2⟩
    omega
  · have bounds : 48 ≤ c.toNat ∧ c.toNat ≤ 57 := ⟨char_le_iff.1 digit.1, char_le_iff.1 digit.2⟩
    omega
  · simp only [List.mem_cons, List.not_mem_nil, or_false] at mark
    rcases mark with rfl | rfl | rfl | rfl | rfl | rfl | rfl
    all_goals decide

/-- Of the punctuation of the query language the alphabet has only these. -/
theorem FieldChar.punctuation (known : FieldChar c) (mark : isQueryPunctuation c = true) :
    c ∈ ['-', '.', '$', '[', ']', '*'] := by
  have marks : (queryPunctuation.all fun d =>
      FieldChar d → d ∈ ['-', '.', '$', '[', ']', '*']) = true := by decide
  exact of_decide_eq_true (List.all_eq_true.1 marks c (List.contains_iff_mem.1 mark)) known

/-! ## Words -/

/-- A word that may name a field. -/
structure IsFieldWord (s : String) : Prop where
  pos : 1 ≤ s.length
  short : s.length ≤ 256
  start : ∀ c, s.toList.head? = some c → FieldStart c
  chars : ∀ c ∈ s.toList, FieldChar c

/-- The text ends in a line break. -/
def EndsInBreak (s : String) : Prop := s.toList.getLast? = some '\n'

instance : DecidablePred EndsInBreak := fun _ => inferInstanceAs (Decidable (_ = _))

theorem endsInBreak_append (w : String) : EndsInBreak (w ++ "\n") := by
  rw [EndsInBreak, String.toList_append]
  exact List.getLast?_concat ..

theorem EndsInBreak.split (h : EndsInBreak s) : s = String.ofList s.toList.dropLast ++ "\n" := by
  rw [← String.toList_inj, String.toList_append, String.toList_ofList]
  exact (List.dropLast_append_getLast? _ h).symm

theorem IsFieldWord.not_endsInBreak (word : IsFieldWord s) : ¬ EndsInBreak s := by
  intro last
  have known := word.chars '\n' (List.mem_of_getLast? last)
  exact absurd known (by decide)

theorem length_append_break (w : String) : (w ++ "\n").length = w.length + 1 := by
  rw [String.length_append]
  rfl

theorem isFieldWord_iff : IsFieldWord s ↔ s.length ≤ 256 ∧ s.toList ≠ []
    ∧ (∀ c, s.toList.head? = some c → FieldStart c) ∧ ∀ c ∈ s.toList, FieldChar c := by
  have filled : 1 ≤ s.length ↔ s.toList ≠ [] := by
    rw [← String.length_toList, Nat.succ_le_iff, List.length_pos_iff]
  rw [← filled]
  exact ⟨fun h => ⟨h.short, h.pos, h.start, h.chars⟩, fun ⟨short, pos, start, chars⟩ =>
    ⟨pos, short, start, chars⟩⟩

theorem isFieldName_iff : isFieldName s = true ↔ withoutFinalBreak s.toList ≠ []
    ∧ (∀ c, (withoutFinalBreak s.toList).head? = some c → FieldStart c)
    ∧ ∀ c ∈ withoutFinalBreak s.toList, FieldChar c := by
  unfold isFieldName
  cases withoutFinalBreak s.toList with
  | nil => simp
  | cons c rest =>
    simp only [Bool.and_eq_true, startsFieldName_iff, List.all_eq_true, continuesFieldName_iff,
      List.head?_cons, Option.some.injEq, forall_eq', List.forall_mem_cons, ne_eq, reduceCtorEq,
      not_false_eq_true, true_and]
    exact ⟨fun h => ⟨h.1, h.1.char, h.2⟩, fun h => ⟨h.1, h.2.2⟩⟩

theorem withoutFinalBreak_plain (plain : ¬ EndsInBreak s) :
    withoutFinalBreak s.toList = s.toList := if_neg plain

theorem withoutFinalBreak_append (w : String) : withoutFinalBreak (w ++ "\n").toList = w.toList := by
  have last : (w ++ "\n").toList.getLast? = some '\n' := endsInBreak_append w
  rw [withoutFinalBreak, if_pos last, String.toList_append]
  exact List.dropLast_concat

theorem fieldNameFault?_eq_none : fieldNameFault? s = none ↔
    s.length ≤ 256 ∧ isFieldName s = true := by
  unfold fieldNameFault? longestFieldName
  split
  · rename_i empty
    rw [empty]
    decide
  · split
    · rename_i long
      exact ⟨nofun, fun fits => absurd fits.1 (Nat.not_le.2 long)⟩
    · rename_i short
      split
      · rename_i formed
        exact ⟨fun _ => ⟨Nat.not_lt.1 short, formed⟩, fun _ => rfl⟩
      · rename_i malformed
        exact ⟨nofun, fun fits => absurd fits.2 malformed⟩

/-- The names that pass: the words, and the shorter words with a line break behind them. -/
theorem fieldNameFault?_eq_none_iff : fieldNameFault? s = none ↔
    IsFieldWord s ∨ ∃ w, IsFieldWord w ∧ w.length < 256 ∧ s = w ++ "\n" := by
  rw [fieldNameFault?_eq_none, isFieldName_iff]
  by_cases last : EndsInBreak s
  · obtain ⟨w, rfl⟩ : ∃ w, s = w ++ "\n" := ⟨_, last.split⟩
    rw [withoutFinalBreak_append, length_append_break]
    constructor
    · rintro ⟨short, spelled⟩
      exact .inr ⟨w, isFieldWord_iff.2 ⟨by omega, spelled⟩, short, rfl⟩
    · rintro (word | ⟨w', word, short, same⟩)
      · exact absurd last word.not_endsInBreak
      · rw [String.append_left_inj] at same
        rw [same]
        exact ⟨short, (isFieldWord_iff.1 word).2⟩
  · rw [withoutFinalBreak_plain last, ← isFieldWord_iff]
    constructor
    · exact .inl
    · rintro (word | ⟨w, _, _, rfl⟩)
      · exact word
      · exact absurd (endsInBreak_append w) last

namespace FieldName

variable (n : FieldName)

/-- A name is a word just when it does not end in a line break; otherwise it is a word but for that. -/
theorem isFieldWord_iff : IsFieldWord n.text ↔ ¬ EndsInBreak n.text := by
  rcases fieldNameFault?_eq_none_iff.1 n.valid with word | ⟨w, _, _, broken⟩
  · exact ⟨fun _ => word.not_endsInBreak, fun _ => word⟩
  · have last : EndsInBreak n.text := broken ▸ endsInBreak_append w
    exact ⟨fun word => word.not_endsInBreak, fun plain => absurd last plain⟩

theorem char_cases (h : c ∈ n.text.toList) : FieldChar c ∨ c = '\n' := by
  rcases fieldNameFault?_eq_none_iff.1 n.valid with word | ⟨w, word, _, broken⟩
  · exact .inl (word.chars c h)
  · rw [broken, String.toList_append, List.mem_append] at h
    exact h.imp (word.chars c) List.mem_singleton.1

end FieldName

theorem checkFieldName_word (word : IsFieldWord w) :
    ∃ n, checkFieldName (.text w) = .ok n ∧ n.text = w := by
  have valid : fieldNameFault? w = none := fieldNameFault?_eq_none_iff.2 (.inl word)
  unfold checkFieldName
  dsimp only
  split
  · exact ⟨_, rfl, rfl⟩
  · rename_i fault h
    exact absurd (h.symm.trans valid) nofun

theorem checkFieldName_eq_ok {v : Value} {n : FieldName} (h : checkFieldName v = .ok n) :
    v = .text n.text := by
  unfold checkFieldName at h
  split at h
  · split at h
    · cases h
      rfl
    · cases h
  · cases h

/-! ## Fields -/

/-- A field that is made, with the name and the store name that are given for it. -/
inductive Field.Made : Field → Value → Value → Prop
  | arguments {f : Field} {given : Arguments} {params : Option VectorParams} :
    Field.ofArguments given params = .ok f →
    Made f (given.get "name" .null) (given.get "store_name" .null)
  | declaration {f : Field} {name declaration : Value} {entries : List (Value × Value)} :
    Field.ofDeclaration name declaration = .ok f → declaration.entries = .ok entries →
    Made f name ((Value.lookup? entries "alias").getD ((Value.lookup? entries "field").getD .null))

theorem Field.assemble_names {name storeName : FieldName} {type : FieldType}
    {params : Option VectorParams} {sortable separator multi : Value} {f : Field}
    (h : Field.assemble name storeName type params sortable separator multi = .ok f) :
    f.name = name ∧ f.storeName = storeName := by
  unfold assemble at h
  split at h
  · split at h
    · cases h
    · cases h
  · split at h
    · cases h
    · cases h
      exact ⟨rfl, rfl⟩

theorem Field.ofArguments_names {given : Arguments} {params : Option VectorParams} {f : Field}
    (h : Field.ofArguments given params = .ok f) :
    given.get "name" .null = .text f.name.text
      ∧ (given.get "store_name" .null = .null ∧ f.storeName = f.name
        ∨ given.get "store_name" .null = .text f.storeName.text) := by
  obtain ⟨_, _, h⟩ := bind_eq_ok.1 h
  obtain ⟨name, named, h⟩ := bind_eq_ok.1 h
  have named := checkFieldName_eq_ok (mapError_eq_ok.1 named)
  dsimp only at h
  split at h
  · rename_i absent
    obtain ⟨storeName, same, h⟩ := bind_eq_ok.1 h
    cases same
    split at h
    · split at h
      · obtain ⟨type, _, h⟩ := bind_eq_ok.1 h
        obtain ⟨rfl, stored⟩ := assemble_names (mapError_eq_ok.1 h)
        exact ⟨named, .inl ⟨absent, stored⟩⟩
      · cases h
    · obtain ⟨_, _, h⟩ := bind_eq_ok.1 h
      cases h
  · obtain ⟨storeName, given, h⟩ := bind_eq_ok.1 h
    have given := checkFieldName_eq_ok (mapError_eq_ok.1 given)
    split at h
    · split at h
      · obtain ⟨type, _, h⟩ := bind_eq_ok.1 h
        obtain ⟨rfl, rfl⟩ := assemble_names (mapError_eq_ok.1 h)
        exact ⟨named, .inr given⟩
      · cases h
    · obtain ⟨_, _, h⟩ := bind_eq_ok.1 h
      cases h

/-- The names of a field are those that were given; the store name is the name if none was. -/
theorem Field.Made.names {f : Field} {name store : Value} (made : f.Made name store) :
    name = .text f.name.text
      ∧ (store = .null ∧ f.storeName = f.name ∨ store = .text f.storeName.text) := by
  cases made with
  | arguments made => exact ofArguments_names made
  | declaration made read =>
    unfold ofDeclaration at made
    rw [read, ok_bind] at made
    dsimp only at made
    obtain ⟨word, _, made⟩ := bind_eq_ok.1 made
    split at made
    · obtain ⟨_, _, made⟩ := bind_eq_ok.1 made
      cases made
    · split at made
      all_goals
        obtain ⟨params, _, made⟩ := bind_eq_ok.1 made
        exact ofArguments_names made

end TypedQuery
