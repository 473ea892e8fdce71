import TypedQuery.Proofs.Reply.KnownWords
import TypedQuery.Proofs.Text.Lowered

/-! # Settings as tables

Settings are written as a table of all that they hold. Settings made of that table hold the same, but for
the words for numbers: those of the table are put on top of the default ones, which come back where they
had been left out. -/

namespace TypedQuery
set_option autoImplicit false

/-! ## Words -/

namespace Sentinels

def keys (words : Sentinels) : List String := words.map (·.1)

/-- Each word stands once, and in lower case. -/
structure Tidy (words : Sentinels) : Prop where
  once : words.keys.Nodup
  lower : ∀ word ∈ words.keys, lowerCase word = word

theorem lookup_eq_none_iff {words : Sentinels} {word : String} :
    words.lookup word = none ↔ word ∉ words.keys := by
  rw [List.lookup_eq_none_iff, keys, List.mem_map]
  constructor
  · rintro other ⟨e, he, rfl⟩
    exact bne_iff_ne.1 (other e he) rfl
  · intro absent e he
    rw [bne_iff_ne]
    rintro rfl
    exact absent ⟨e, he, rfl⟩

theorem tidy_nil : Tidy [] := ⟨List.nodup_nil, nofun⟩

theorem tidy_default : Tidy defaultSentinels := ⟨by decide, by decide +kernel⟩

variable {words base : Sentinels} {word : String}

theorem keys_insert (words : Sentinels) (word : String) (x : Double) :
    (words.insert word x).keys = if word ∈ words.keys then words.keys else words.keys ++ [word] := by
  have known : (words.any fun e => e.1 == word) = true ↔ word ∈ words.keys := by
    simp [keys, List.mem_map]
  unfold insert
  by_cases member : word ∈ words.keys
  · rw [if_pos (known.2 member), if_pos member, keys, keys, List.map_map]
    refine List.map_congr_left fun e _ => ?_
    by_cases same : e.1 = word
    · simp [same]
    · simp [same]
  · rw [if_neg (mt known.1 member), if_neg member, keys, List.map_append]
    rfl

theorem Tidy.insert (tidy : words.Tidy) (lower : lowerCase word = word) (x : Double) :
    (words.insert word x).Tidy := by
  have after := keys_insert words word x
  split at after
  · exact ⟨after ▸ tidy.once, after ▸ tidy.lower⟩
  · rename_i fresh
    refine ⟨?_, ?_⟩
    · rw [after, List.nodup_append_comm]
      exact List.nodup_cons.2 ⟨fresh, tidy.once⟩
    · intro other among
      rw [after, List.mem_append, List.mem_singleton] at among
      rcases among with old | rfl
      · exact tidy.lower other old
      · exact lower

theorem lowerCase_wordOf {k : Value} (h : wordOf k = .ok word) : lowerCase word = word := by
  obtain ⟨shown, _, rfl⟩ := map_eq_ok.1 h
  exact lowerCase_lowerCase shown

theorem Tidy.insertEntries {entries : List (Value × Value)} (tidy : base.Tidy)
    (h : base.insertEntries entries = .ok words) : words.Tidy := by
  induction entries generalizing base with
  | nil =>
    cases h
    exact tidy
  | cons e rest ih =>
    obtain ⟨word, named, h⟩ := bind_eq_ok.1 h
    obtain ⟨x, _, h⟩ := bind_eq_ok.1 h
    exact ih (tidy.insert (lowerCase_wordOf named) x) h

/-- The entries of a table of words. -/
def asEntries (words : Sentinels) : List (Value × Value) :=
  words.map fun (word, x) => (.text word, .double x)

/-- Words from a table are put on top of those known before. -/
theorem insertEntries_asEntries (tidy : words.Tidy) (base : Sentinels) :
    ∃ merged, base.insertEntries words.asEntries = .ok merged
      ∧ ∀ w, merged.lookup w = (words.lookup w).or (base.lookup w) := by
  induction words generalizing base with
  | nil => exact ⟨base, rfl, fun _ => rfl⟩
  | cons e rest ih =>
    obtain ⟨word, x⟩ := e
    obtain ⟨fresh, once⟩ := List.nodup_cons.1 tidy.once
    obtain ⟨first, lower⟩ := List.forall_mem_cons.1 tidy.lower
    obtain ⟨merged, inserted, found⟩ := ih ⟨once, lower⟩ (base.insert word x)
    have named : wordOf (.text word) = .ok word := congrArg Except.ok first
    refine ⟨merged, ?_, fun w => ?_⟩
    · rw [asEntries, List.map_cons, insertEntries, named, ok_bind]
      exact inserted
    · have absent : rest.lookup word = none := lookup_eq_none_iff.2 fresh
      rw [found, lookup_insert, lookup_cons_ite]
      by_cases same : w = word
      · rw [if_pos same, if_pos same, same, absent, Option.none_or, Option.some_or]
      · rw [if_neg same, if_neg same]

end Sentinels

/-! ## Settings -/

namespace Settings

variable {given : Arguments} {s : Settings}

theorem tidy_of_ofArguments (made : ofArguments given = .ok s) : s.sentinels.Tidy := by
  obtain ⟨_, _, made⟩ := bind_eq_ok.1 made
  dsimp only at made
  split at made
  · cases made
    exact Sentinels.tidy_default
  · obtain ⟨entries, _, made⟩ := bind_eq_ok.1 made
    obtain ⟨words, inserted, made⟩ := bind_eq_ok.1 made
    cases made
    exact Sentinels.tidy_nil.insertEntries inserted

/-- Of what settings are written as, only the words are not taken over as they are. -/
theorem ofTable_written (s : Settings) :
    ofTable s.toTable
      = (fun words => { s with sentinels := words })
        <$> defaultSentinels.insertEntries s.sentinels.asEntries := by
  obtain ⟨dialect, pageSize, parameter, column, sentinels, warning, level⟩ := s
  cases sentinels with
  | nil => rfl
  | cons e rest => rfl

/-- Settings that are written as a table and read again differ at most in their words. Each word stands
for what it did, and a default word that they had not stands for what it always does; so nothing differs
if and only if they had all default words. -/
theorem ofTable_toTable (made : ofArguments given = .ok s) :
    ∃ words : Sentinels, ofTable s.toTable = .ok { s with sentinels := words } ∧ words.Tidy
      ∧ (∀ w, words.lookup w = (s.sentinels.lookup w).or (defaultSentinels.lookup w))
      ∧ ((∀ w, words.lookup w = s.sentinels.lookup w)
        ↔ ∀ w ∈ defaultSentinels.keys, w ∈ s.sentinels.keys) := by
  obtain ⟨words, inserted, found⟩ :=
    Sentinels.insertEntries_asEntries (tidy_of_ofArguments made) defaultSentinels
  refine ⟨words, ?_, Sentinels.tidy_default.insertEntries inserted, found, ?_⟩
  · rw [ofTable_written, inserted]
    rfl
  · constructor
    · intro same w standard
      by_contra absent
      have none := found w
      rw [same w, Sentinels.lookup_eq_none_iff.2 absent, Option.none_or] at none
      exact Sentinels.lookup_eq_none_iff.1 none.symm standard
    · intro all w
      rw [found w]
      cases known : s.sentinels.lookup w with
      | some x => rfl
      | none =>
        have other : w ∉ defaultSentinels.keys := mt (all w) (Sentinels.lookup_eq_none_iff.1 known)
        rw [Sentinels.lookup_eq_none_iff.2 other]
        rfl

theorem ofTable_toTable_named :
    ∃ s words, ofArguments [("dialect", .int 3), ("numeric_sentinels",
        .map [(.text "N/A", .double .notANumber), (.text "INF", .int 1)])] = .ok s
      ∧ ofTable s.toTable = .ok { s with sentinels := words }
      ∧ words.lookup "n/a" = some .notANumber ∧ words.lookup "inf" = s.sentinels.lookup "inf"
      ∧ s.sentinels.lookup "nan" = none ∧ words.lookup "nan" = some .notANumber := by
  obtain ⟨words, read, _, found, _⟩ := @ofTable_toTable [("dialect", .int 3),
    ("numeric_sentinels", .map [(.text "N/A", .double .notANumber), (.text "INF", .int 1)])] _ rfl
  exact ⟨_, words, rfl, read, found "n/a", found "inf", rfl, found "nan"⟩

/-- Settings that were given no words at all have the default ones afterwards. -/
theorem ofTable_toTable_emptied :
    ∃ s t, ofArguments [("numeric_sentinels", .map [])] = .ok s ∧ ofTable s.toTable = .ok t
      ∧ s.sentinels.lookup "inf" = none ∧ t.sentinels.lookup "inf" = some (.infinite false) :=
  ⟨_, _, rfl, rfl, rfl, rfl⟩

end Settings

end TypedQuery
