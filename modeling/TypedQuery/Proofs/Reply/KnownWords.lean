import Mathlib.Data.List.Nodup
import TypedQuery.Proofs.Condition.Built
import TypedQuery.Proofs.Tables
import TypedQuery.Proofs.Text.Casing
import TypedQuery.Reply.Coercion

/-! # Words for numbers

The words in the settings are kept in lower case, and a token of a reply is lower-cased before it is
looked up. But a token has lost the blanks at its ends by then, and a word of the settings has not: one
with a blank at an end is never met. -/

namespace TypedQuery
set_option autoImplicit false

/-! ## The table -/

namespace Sentinels

theorem lookup_insert (words : Sentinels) (word other : String) (x : Double) :
    (words.insert word x).lookup other = if other = word then some x else words.lookup other := by
  unfold insert
  rw [lookup_put]

/-- Words and their numbers, as entries of a table. -/
def entriesOf (given : List (String × Value)) : List (Value × Value) :=
  given.map fun e => (.text e.1, e.2)

theorem wordOf_text {k : String} (ascii : IsAscii k) : wordOf (.text k) = .ok (asciiLower k) := by
  rw [← lowerCase_ascii ascii]
  rfl

/-- Of words that are given, and that differ in lower case, each has its number; what was known under
other words stays. -/
theorem insertEntries_eq_ok {given : List (String × Value)} {base words : Sentinels}
    (ascii : ∀ e ∈ given, IsAscii e.1) (distinct : (given.map fun e => asciiLower e.1).Nodup)
    (h : base.insertEntries (entriesOf given) = .ok words) :
    (∀ e ∈ given, ∃ x, e.2.toDouble = .ok x ∧ words.lookup (asciiLower e.1) = some x)
      ∧ ∀ word, word ∉ given.map (fun e => asciiLower e.1) → words.lookup word = base.lookup word := by
  induction given generalizing base with
  | nil =>
    cases h
    exact ⟨nofun, fun _ _ => rfl⟩
  | cons e rest ih =>
    obtain ⟨key, v⟩ := e
    rw [List.map_cons, List.nodup_cons] at distinct
    obtain ⟨word, lowered, h⟩ := bind_eq_ok.1 h
    obtain ⟨x, number, h⟩ := bind_eq_ok.1 h
    have first := wordOf_text (ascii _ (List.mem_cons_self ..))
    rw [first] at lowered
    cases lowered
    obtain ⟨each, others⟩ := ih (fun e he => ascii e (List.mem_cons_of_mem _ he)) distinct.2 h
    constructor
    · intro e he
      rcases List.mem_cons.1 he with rfl | he
      · refine ⟨x, number, ?_⟩
        rw [others _ distinct.1, lookup_insert, if_pos rfl]
      · exact each e he
    · intro word other
      rw [List.map_cons, List.mem_cons, not_or] at other
      rw [others word other.2, lookup_insert, if_neg other.1]

end Sentinels

/-! ## Settings -/

/-- Settings with words that are given, on top of those known before: of none if the settings are made
of arguments, and of the default ones if they are made of a table. -/
inductive Settings.Built : Settings → Sentinels → List (Value × Value) → Prop
  | arguments {s : Settings} {given : Arguments} {entries : List (Value × Value)} :
    Settings.ofArguments given = .ok s → given.lookup "numeric_sentinels" = some (.map entries) →
    Built s [] entries
  | table {s : Settings} {v : Value} {table entries : List (Value × Value)} :
    Settings.ofTable v = .ok s → Settings.tableOf v = .ok table →
    Value.lookup? table "numeric_sentinels" = some (.map entries) → Built s defaultSentinels entries

theorem Settings.Built.insertEntries {s : Settings} {base : Sentinels}
    {entries : List (Value × Value)} (built : s.Built base entries) :
    base.insertEntries entries = .ok s.sentinels := by
  cases built with
  | arguments made given =>
    obtain ⟨_, _, made⟩ := bind_eq_ok.1 made
    rw [given] at made
    obtain ⟨entries', same, made⟩ := bind_eq_ok.1 made
    cases same
    obtain ⟨words, inserted, made⟩ := bind_eq_ok.1 made
    cases made
    exact inserted
  | table made read given =>
    unfold ofTable at made
    rw [read, ok_bind] at made
    dsimp only at made
    obtain ⟨_, _, made⟩ := bind_eq_ok.1 made
    obtain ⟨_, _, made⟩ := bind_eq_ok.1 made
    rw [given] at made
    dsimp only at made
    split at made
    · obtain ⟨entries', same, made⟩ := bind_eq_ok.1 made
      cases same
      obtain ⟨words, inserted, made⟩ := bind_eq_ok.1 made
      cases made
      exact inserted
    · rename_i empty
      have none : entries = [] := by simpa [Value.truthy] using empty
      cases made
      rw [none]
      rfl

/-! ## Reading -/

section Reading

variable {words others : Sentinels} {f : Field} {raw : Value} {t : String}

theorem coerce_number (numbered : f.type = .number) (raw : Value) :
    coerce words f raw = .double <$> readNumber words f.name.text raw := by
  unfold coerce
  rw [numbered]
  rfl

theorem coerce_known {x : Double} (numbered : f.type = .number) (text : rawText raw = .ok t)
    (known : words.lookup (lowerCase (trimmed t)) = some x) :
    coerce words f raw = .ok (.double x) := by
  have read : readNumber words f.name.text raw = .ok x := by
    unfold readNumber
    rw [text, ok_bind]
    dsimp only
    rw [known]
    rfl
  rw [coerce_number numbered, read]
  rfl

/-- Of the table only the entry of the token matters. -/
theorem coerce_other_words (numbered : f.type = .number) (text : rawText raw = .ok t)
    (same : words.lookup (lowerCase (trimmed t)) = others.lookup (lowerCase (trimmed t))) :
    coerce words f raw = coerce others f raw := by
  have read : readNumber words f.name.text raw = readNumber others f.name.text raw := by
    unfold readNumber
    rw [text, ok_bind, ok_bind]
    dsimp only
    rw [same]
  rw [coerce_number numbered, coerce_number numbered, read]

end Reading

/-- A word of the settings stands for its number, in whatever case a reply has it, if it has no blank at
either end; otherwise replies are read as if the word were not there. The default words that settings
from a table do not name stand for what they always do. -/
theorem coerce_words {s : Settings} {base : Sentinels} {given : List (String × Value)}
    (built : s.Built base (Sentinels.entriesOf given)) (ascii : ∀ e ∈ given, IsAscii e.1)
    (distinct : (given.map fun e => asciiLower e.1).Nodup) :
    (∀ e ∈ given, ∃ x, e.2.toDouble = .ok x ∧ ∀ f raw t, f.type = .number → rawText raw = .ok t →
      asciiLower t = asciiLower e.1 →
        (trimmed e.1 = e.1 → coerce s.sentinels f raw = .ok (.double x))
        ∧ (trimmed e.1 ≠ e.1 → coerce s.sentinels f raw
          = coerce (s.sentinels.filter fun w => w.1 ≠ asciiLower e.1) f raw))
    ∧ (base = defaultSentinels → ∀ w ∈ defaultSentinels, w.1 ∉ given.map (fun e => asciiLower e.1) →
      s.sentinels.lookup w.1 = some w.2 ∧ ∀ f raw t, f.type = .number → rawText raw = .ok t →
        lowerCase (trimmed t) = w.1 → coerce s.sentinels f raw = .ok (.double w.2)) := by
  obtain ⟨each, rest⟩ := Sentinels.insertEntries_eq_ok ascii distinct built.insertEntries
  constructor
  · intro e he
    obtain ⟨x, number, known⟩ := each e he
    refine ⟨x, number, fun f raw t numbered text same => ?_⟩
    have token : lowerCase (trimmed t) = asciiLower (trimmed e.1) :=
      lowerCase_trimmed (ascii e he) same
    constructor
    · intro bare
      rw [bare] at token
      exact coerce_known numbered text (token ▸ known)
    · intro blank
      have other : lowerCase (trimmed t) ≠ asciiLower e.1 := by
        rw [token]
        exact mt asciiLower_trimmed_eq blank
      exact coerce_other_words numbered text (lookup_filter_ne _ _ _ other).symm
  · rintro rfl w hw unnamed
    have standard : ∀ w ∈ defaultSentinels, defaultSentinels.lookup w.1 = some w.2 := by decide
    have known : s.sentinels.lookup w.1 = some w.2 := by rw [rest w.1 unnamed, standard w hw]
    exact ⟨known, fun f raw t numbered text token => coerce_known numbered text (token ▸ known)⟩

theorem coerce_words_missing :
    ∃ s, Settings.ofTable (.map [(.text "numeric_sentinels",
        .map [(.text "N/A", .double .notANumber)])]) = .ok s
      ∧ coerce s.sentinels Products.price (.text "n/A") = .ok (.double .notANumber)
      ∧ s.sentinels.lookup "inf" = some (.infinite false) := by
  have made : ∃ s, Settings.ofTable (.map [(.text "numeric_sentinels",
      .map [(.text "N/A", .double .notANumber)])]) = .ok s := ⟨_, rfl⟩
  obtain ⟨s, made⟩ := made
  have built : s.Built defaultSentinels (Sentinels.entriesOf [("N/A", .double .notANumber)]) :=
    .table made rfl rfl
  have ascii : ∀ e ∈ [("N/A", Value.double .notANumber)], IsAscii e.1 := by
    intro e he
    rw [List.mem_singleton.1 he]
    decide
  obtain ⟨each, standard⟩ := coerce_words built ascii (List.nodup_singleton _)
  obtain ⟨x, number, read⟩ := each _ (List.mem_singleton_self _)
  cases number
  have known := read Products.price (.text "n/A") "n/A" rfl rfl (by decide)
  have inf := standard rfl ("inf", .infinite false) (by decide) (by decide)
  exact ⟨s, made, known.1 (by decide), inf.1⟩

/-- A word with a blank at its end is taken, and is then not known in a reply. -/
theorem coerce_blank_word :
    ∃ s, Settings.ofArguments [("numeric_sentinels",
        .map [(.text "n/a ", .double .notANumber)])] = .ok s
      ∧ coerce s.sentinels Products.price (.text "n/a ")
        = .error (.reply (.notNumber "price" "n/a")) :=
  ⟨_, rfl, rfl⟩

end TypedQuery
