import TypedQuery.Proofs.Reply.Faults
import TypedQuery.Proofs.Text.Parting

/-! # Tags of one text

A text of a field of several tags is read as the parts between its separators, the empty ones left out.
Tags that were read are read again from their own text, however long the separator is and however it may
overlap with itself. -/

namespace TypedQuery
set_option autoImplicit false

/-- A text that may stand between separators. -/
structure IsTag (separator tag : String) : Prop where
  filled : tag ≠ ""
  whole : ¬ separator.toList <:+: tag.toList

variable {separator text : String} {tags : List String} {parts : List (List Char)}

/-! ## Reading -/

theorem readTags_parted (ne : separator ≠ "")
    (parted : Parted separator.toList text.toList parts) :
    readTags (.text separator) text = .ok ((parts.filter (· ≠ [])).map String.ofList) := by
  have found := parted.splitChars_eq (mt String.toList_eq_nil_iff.1 ne)
  unfold readTags
  split
  · rename_i empty
    rw [empty] at found
    rw [← found, String.toList_empty, splitChars]
    rfl
  · dsimp only
    rw [if_neg ne, splitText, found, List.filter_map]
    congr 3
    funext part
    simp

theorem readTags_joined (ne : separator ≠ "") (filled : ∀ tag ∈ tags, tag ≠ "")
    (parted : tags ≠ [] → Parted separator.toList
      (List.intercalate separator.toList (tags.map String.toList)) (tags.map String.toList)) :
    readTags (.text separator) (joinTexts separator tags) = .ok tags := by
  by_cases none : tags = []
  · rw [none]
    rfl
  · have found := parted none
    rw [← joinTexts_toList] at found
    have kept : (tags.map String.toList).filter (· ≠ []) = tags.map String.toList := by
      rw [List.filter_eq_self]
      intro part hp
      obtain ⟨tag, ht, rfl⟩ := List.mem_map.1 hp
      simpa using filled tag ht
    rw [readTags_parted ne found, kept, map_ofList_toList]

/-- What is read from a text are tags, and they are read again when they are joined. -/
theorem readTags_again (ne : separator ≠ "") (text : String) :
    ∃ tags, readTags (.text separator) text = .ok tags ∧ (∀ tag ∈ tags, IsTag separator tag)
      ∧ readTags (.text separator) (joinTexts separator tags) = .ok tags := by
  have some : separator.toList ≠ [] := mt String.toList_eq_nil_iff.1 ne
  obtain ⟨parts, parted⟩ := exists_parted some text.toList
  have each : ∀ tag ∈ (parts.filter (· ≠ [])).map String.ofList, IsTag separator tag := by
    intro tag ht
    obtain ⟨part, hp, rfl⟩ := List.mem_map.1 ht
    obtain ⟨among, filled⟩ := List.mem_filter.1 hp
    refine ⟨by simpa using filled, ?_⟩
    rw [String.toList_ofList]
    exact parted.not_infix some part among
  refine ⟨_, readTags_parted ne parted, each, readTags_joined ne (fun tag ht => (each tag ht).filled) ?_⟩
  intro filled
  rw [map_toList_ofList]
  exact parted.filled some fun none => filled (by rw [none]; rfl)

/-- Any tags can be joined with a separator of one character. -/
theorem readTags_of_tags (single : separator.length = 1) (each : ∀ tag ∈ tags, IsTag separator tag) :
    readTags (.text separator) (joinTexts separator tags) = .ok tags := by
  obtain ⟨c, only⟩ := List.length_eq_one_iff.1 (single : separator.toList.length = 1)
  have ne : separator ≠ "" := by
    rintro rfl
    cases single
  refine readTags_joined ne (fun tag ht => (each tag ht).filled) fun some => ?_
  rw [only]
  refine parted_intercalate (by simpa using some) fun part hp met => ?_
  obtain ⟨tag, ht, rfl⟩ := List.mem_map.1 hp
  refine (each tag ht).whole ?_
  rw [only, List.singleton_infix_iff]
  exact met

/-! ## Columns -/

theorem coerce_several {f : Field} {raw : Value} (words : Sentinels) (tag : f.type = .tag)
    (several : f.multi.truthy = true) (read : rawText raw = .ok text) :
    coerce words f raw = (fun tags => .list (tags.map .text)) <$> readTags f.separator text := by
  simp [coerce, tag, several, read]
  rfl

/-- In a field of several tags, tags that are joined by a separator of one character are read as they
are. With any separator, whatever the text, what is read are tags, and joined again they are read as the
same tags. -/
theorem coerce_tags {f : Field} (tag : f.type = .tag) (several : f.multi.truthy = true)
    (separated : f.separator = .text separator) (ne : separator ≠ "") :
    (separator.length = 1 → ∀ tags : List String, (∀ t ∈ tags, IsTag separator t) →
      ∀ words raw, rawText raw = .ok (joinTexts separator tags) →
        coerce words f raw = .ok (.list (tags.map .text)))
    ∧ ∀ words raw text, rawText raw = .ok text → ∃ tags : List String,
      coerce words f raw = .ok (.list (tags.map .text)) ∧ (∀ t ∈ tags, IsTag separator t)
      ∧ ∀ words again, rawText again = .ok (joinTexts separator tags) →
        coerce words f again = .ok (.list (tags.map .text)) := by
  constructor
  · intro single tags each words raw joined
    rw [coerce_several words tag several joined, separated, readTags_of_tags single each]
    rfl
  · intro words raw text read
    obtain ⟨tags, found, each, kept⟩ := readTags_again ne text
    refine ⟨tags, ?_, each, ?_⟩
    · rw [coerce_several words tag several read, separated, found]
      rfl
    · intro words again joined
      rw [coerce_several words tag several joined, separated, kept]
      rfl

/-- A separator that overlaps with itself, in a text with more of its characters than it has. -/
theorem coerce_tags_overlapping :
    coerce [] (Products.tags (.text ",")) (.bytes "red,light blue".toUTF8)
        = .ok (.list [.text "red", .text "light blue"])
      ∧ ∃ tags : List String,
        coerce [] (Products.tags (.text "aa")) (.text "aaaxaaa") = .ok (.list (tags.map .text))
        ∧ (∀ t ∈ tags, IsTag "aa" t)
        ∧ coerce [] (Products.tags (.text "aa")) (.text (joinTexts "aa" tags))
          = .ok (.list (tags.map .text)) := by
  have each : ∀ t ∈ ["red", "light blue"], IsTag "," t := by
    intro t ht
    simp only [List.mem_cons, List.not_mem_nil, or_false] at ht
    rcases ht with rfl | rfl
    · exact ⟨by decide, by decide⟩
    · exact ⟨by decide, by decide⟩
  have short := coerce_tags (f := Products.tags (.text ",")) rfl rfl rfl (by decide)
  have long := coerce_tags (f := Products.tags (.text "aa")) rfl rfl rfl (by decide)
  obtain ⟨tags, read, whole, again⟩ := long.2 [] (.text "aaaxaaa") _ rfl
  exact ⟨short.1 rfl _ each [] _ (rawText_toUTF8 "red,light blue"), tags, read, whole,
    again [] (.text _) rfl⟩

end TypedQuery
