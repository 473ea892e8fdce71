import TypedQuery.Proofs.Query.ClauseReading

/-! # Escaping is undone

Where a backslash takes the next character literally, an escaped text is read as its own characters,
and each of them that has a meaning in the query language has a backslash before it. -/

namespace TypedQuery
set_option autoImplicit false

/-! ## Behind backslashes -/

/-- The characters of a text in which a backslash takes the next one literally. One at the very end
stands for itself. -/
def glyphsIn : List Char → List Glyph
  | '\\' :: c :: rest => ⟨c, true⟩ :: glyphsIn rest
  | c :: rest => ⟨c, false⟩ :: glyphsIn rest
  | [] => []

def Glyph.written (g : Glyph) : List Char := if g.escaped then ['\\', g.char] else [g.char]

/-- A text in which each backslash has gone and the character behind it has stayed. -/
def unescaped (s : String) : String := textOf (glyphsIn s.toList)

/-- The characters that are left when each backslash is skipped with the character behind it. -/
def bareChars (s : String) : List Char :=
  ((glyphsIn s.toList).filter fun g => !g.escaped).map Glyph.char

/-- A text cut at those occurrences of a character that have no backslash before them. -/
def bareParts (separator : Char) (s : String) : List String :=
  ((glyphsIn s.toList).splitOn ⟨separator, false⟩).map fun part =>
    String.ofList (part.flatMap Glyph.written)

theorem glyphsIn_cons {c : Char} (plain : c ≠ '\\') (rest : List Char) :
    glyphsIn (c :: rest) = ⟨c, false⟩ :: glyphsIn rest := by
  rw [glyphsIn]
  rintro _ _ rfl
  exact absurd rfl plain

variable {special : Char → Bool}

/-- Escaped characters are read as themselves, whatever stands behind them. -/
theorem glyphsIn_escapeChars (backslash : special '\\' = true) (cs rest : List Char) :
    glyphsIn (escapeChars special cs ++ rest) = (cs.map fun c => ⟨c, special c⟩) ++ glyphsIn rest := by
  induction cs with
  | nil => rfl
  | cons c cs ih =>
    rw [escapeChars, List.flatMap_cons, List.append_assoc, List.map_cons, List.cons_append]
    cases marked : special c with
    | true =>
      rw [if_pos rfl, List.cons_append, List.cons_append, List.nil_append, glyphsIn]
      exact congrArg _ ih
    | false =>
      have plain : c ≠ '\\' := by
        rintro rfl
        rw [backslash] at marked
        cases marked
      rw [if_neg Bool.false_ne_true, List.cons_append, List.nil_append, glyphsIn_cons plain]
      exact congrArg _ ih

theorem glyphsIn_escaped (backslash : special '\\' = true) (cs : List Char) :
    glyphsIn (escapeChars special cs) = cs.map fun c => ⟨c, special c⟩ := by
  have read := glyphsIn_escapeChars backslash cs []
  rwa [List.append_nil, glyphsIn, List.append_nil] at read

theorem written_glyphs (special : Char → Bool) (cs : List Char) :
    ((cs.map fun c => (⟨c, special c⟩ : Glyph)).flatMap Glyph.written) = escapeChars special cs :=
  List.flatMap_map ..

/-! ## Texts -/

/-- Escaping can be undone, text by text and character by character, and leaves none of these
characters bare. -/
structure Escapes (mark : Char → Prop) (escape : String → String) : Prop where
  undone : ∀ s, unescaped (escape s) = s
  append : ∀ s t, escape (s ++ t) = escape s ++ escape t
  injective : Function.Injective escape
  guarded : ∀ s, ∀ c ∈ bareChars (escape s), ¬ mark c

theorem escapes_escapeChars {mark : Char → Prop} (marked : ∀ c, mark c → special c = true)
    (backslash : special '\\' = true) :
    Escapes mark fun s => String.ofList (escapeChars special s.toList) := by
  have undone : ∀ s : String, unescaped (String.ofList (escapeChars special s.toList)) = s := by
    intro s
    rw [unescaped, String.toList_ofList, glyphsIn_escaped backslash, textOf_map, String.ofList_toList]
  refine ⟨undone, fun s t => ?_, fun s t same => ?_, fun s c hc hm => ?_⟩
  · rw [String.toList_append, escapeChars, List.flatMap_append, String.ofList_append]
    rfl
  · rw [← undone s, ← undone t]
    exact congrArg unescaped same
  · rw [bareChars, String.toList_ofList, glyphsIn_escaped backslash] at hc
    obtain ⟨g, hg, rfl⟩ := List.mem_map.1 hc
    obtain ⟨met, bare⟩ := List.mem_filter.1 hg
    obtain ⟨c, _, rfl⟩ := List.mem_map.1 met
    rw [marked c hm] at bare
    cases bare

theorem glyphsIn_intercalate {separator : Char} (plain : separator ≠ '\\')
    (backslash : special '\\' = true) (css : List (List Char)) :
    glyphsIn (List.intercalate [separator] (css.map (escapeChars special)))
      = List.intercalate [⟨separator, false⟩] (css.map (List.map fun c => ⟨c, special c⟩)) := by
  induction css with
  | nil => rfl
  | cons cs rest ih =>
    cases rest with
    | nil =>
      rw [List.map_singleton, List.map_singleton, List.intercalate_singleton,
        List.intercalate_singleton]
      exact glyphsIn_escaped backslash cs
    | cons second more =>
      rw [List.map_cons, List.map_cons, List.map_cons, List.map_cons, List.intercalate_cons_cons,
        List.intercalate_cons_cons, List.append_assoc, glyphsIn_escapeChars backslash,
        List.singleton_append, glyphsIn_cons plain, List.append_assoc]
      exact congrArg _ (congrArg _ ih)

theorem bareParts_joined {separator : Char} {j : String} {ts : List String} (ne : ts ≠ [])
    (single : j.toList = [separator]) (plain : separator ≠ '\\') (backslash : special '\\' = true)
    (marked : special separator = true) :
    bareParts separator (joinTexts j (ts.map fun t => String.ofList (escapeChars special t.toList)))
      = ts.map fun t => String.ofList (escapeChars special t.toList) := by
  have chars : (ts.map fun t => String.ofList (escapeChars special t.toList)).map String.toList
      = (ts.map String.toList).map (escapeChars special) := by
    simp [Function.comp_def]
  have apart : ∀ part ∈ (ts.map String.toList).map (List.map fun c => (⟨c, special c⟩ : Glyph)),
      (⟨separator, false⟩ : Glyph) ∉ part := by
    intro part hp met
    obtain ⟨cs, _, rfl⟩ := List.mem_map.1 hp
    obtain ⟨c, _, same⟩ := List.mem_map.1 met
    injection same with char bare
    rw [char, marked] at bare
    cases bare
  rw [bareParts, joinTexts_toList, single, chars, glyphsIn_intercalate plain backslash,
    List.splitOn_intercalate _ apart (by simpa using ne), List.map_map, List.map_map]
  refine List.map_congr_left fun t _ => ?_
  simp only [Function.comp_def, written_glyphs]

/-- Escaped texts and tags are read as they were, bare punctuation occurs in neither and bare blanks do
not occur in tags; and tags that are joined by bars are told apart again. -/
theorem escape_undone :
    Escapes (· ∈ queryPunctuation) escapeText
      ∧ Escapes (fun c => c ∈ queryPunctuation ∨ isBlank c = true) escapeTag
      ∧ ∀ tags : List String, tags ≠ [] →
        (bareParts '|' (joinTexts "|" (tags.map escapeTag))).map unescaped = tags := by
  have tag : Escapes (fun c => c ∈ queryPunctuation ∨ isBlank c = true) escapeTag :=
    escapes_escapeChars (fun c mark => by simpa [breaksTag, isQueryPunctuation] using mark) (by decide)
  refine ⟨escapes_escapeChars (fun c mark => List.contains_iff_mem.2 mark) (by decide), tag, ?_⟩
  intro tags ne
  have parts : bareParts '|' (joinTexts "|" (tags.map escapeTag)) = tags.map escapeTag :=
    bareParts_joined ne rfl (by decide) (by decide) (by decide)
  rw [parts, List.map_map]
  exact (List.map_congr_left fun t _ => tag.undone t).trans (List.map_id tags)

theorem escape_undone_bars :
    ["a|b", "\\", "c d\\"] ≠ []
      ∧ (bareParts '|' "a\\|b|\\\\|c\\ d\\\\").map unescaped = ["a|b", "\\", "c d\\"] :=
  ⟨by decide, escape_undone.2.2 ["a|b", "\\", "c d\\"] (by decide)⟩

end TypedQuery
