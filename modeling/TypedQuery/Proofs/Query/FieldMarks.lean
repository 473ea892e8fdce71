import TypedQuery.Proofs.Query.NearestReading

/-! # Fields in queries

Behind every at sign that conditions put into a query stands the store name of a declared field. Store
names go out as they are; what keeps them apart from the rest of the query is their alphabet. -/

namespace TypedQuery
set_option autoImplicit false

/-- What stands behind each at sign that has no backslash before it. -/
def afterMarks : List Char → List (List Char)
  | [] => []
  | '\\' :: _ :: rest => afterMarks rest
  | '@' :: rest => rest :: afterMarks rest
  | _ :: rest => afterMarks rest

theorem afterMarks_cons {c : Char} {cs : List Char} (plain : isPlain c = true) :
    afterMarks (c :: cs) = afterMarks cs := by
  have other : c ≠ '@' ∧ c ≠ '>' ∧ c ≠ '\\' := by simpa [queryMarks] using isPlain_iff.1 plain
  rw [afterMarks]
  · exact fun _ _ e _ => other.2.2 e
  · exact other.1

theorem afterMarks_append {cs ds : List Char} (plain : cs.all isPlain = true) :
    afterMarks (cs ++ ds) = afterMarks ds := by
  induction cs with
  | nil => rfl
  | cons c cs ih =>
    rw [List.all_cons, Bool.and_eq_true] at plain
    rw [List.cons_append, afterMarks_cons plain.1, ih plain.2]

namespace Schema

variable {s : Schema}

/-- The text is the store name of a declared field, a colon, and anything. -/
def StartsWithField (s : Schema) (cs : List Char) : Prop :=
  ∃ f ∈ s.fields, ∃ rest, cs = f.storeName.text.toList ++ ':' :: rest

theorem Written.afterMarks {cs : List Char} (written : s.Written cs) :
    ∀ after ∈ afterMarks cs, s.StartsWithField after := by
  induction written with
  | nil => exact fun _ none => absurd none List.not_mem_nil
  | plain plain _ ih =>
    rw [afterMarks_cons plain]
    exact ih
  | escaped _ ih => exact ih
  | @name f cs declared _ ih =>
    have name : TypedQuery.afterMarks (f.storeName.text.toList ++ ':' :: cs)
        = TypedQuery.afterMarks cs := by
      rw [afterMarks_append f.storeName.all_plain, afterMarks_cons (by decide)]
    rw [TypedQuery.afterMarks, name]
    exact List.forall_mem_cons.2 ⟨⟨f, declared, cs, rfl⟩, ih⟩

end Schema

namespace Compiler

open Condition

/-- In the query of a plan, each at sign of the conditions has the store name of a declared field and a
colon behind it, and that of the neighbours the store name of a declared field and a blank. -/
theorem compile_marks {c : Compiler} {node : Condition} {o : SearchOptions} {plan : Plan}
    (made : node.MadeOf (Condition.Built c.schema)) (compiled : c.compile node o = .ok plan) :
    ∃ before tail, plan.query = before ++ tail
      ∧ (∀ after ∈ afterMarks before.toList, c.schema.StartsWithField after)
      ∧ (tail = "" ∨ ∃ f ∈ c.schema.fields, ∃ k column param name, plan.scoreFields = [column]
        ∧ c.settings.vectorParamName.display = .ok param ∧ column.display = .ok name
        ∧ tail = "=>[KNN " ++ k ++ " @" ++ f.storeName.text ++ " $" ++ param ++ " AS " ++ name
          ++ "]") := by
  obtain ⟨q, _, asked, _, _, _, query, _, scores, _⟩ := compile_eq_ok compiled
  rcases question_cases asked with ⟨_, text, written, rfl⟩ | ⟨target, k, vector, scoreAlias, once⟩
  · have marks := (Schema.written_conditionText made written).afterMarks
    exact ⟨text, "", by rw [query, String.append_empty], marks, .inl rfl⟩
  · obtain ⟨top, f, origin, _, rfl, _, _, _, filter, column, written, _, count, param, name, _, shown,
      named, rfl⟩ := question_eq_ok once asked
    obtain ⟨g, declared, n, same, rfl, _⟩ := nearest_of_made made once
    cases same
    have marks := (written_prefilter made rfl once top written).afterMarks
    refine ⟨_, _, ?_, marks, .inr ⟨f, declared, count, column, param, name, scores, shown, named, rfl⟩⟩
    rw [query, ← String.toList_inj]
    simp [inBrackets, joinTexts]

end Compiler

/-! ## Names -/

/-- A name is a word, unless it ends in a line break; then it is a word but for that break. -/
structure FieldName.Formed (n : FieldName) : Prop where
  word : ¬ EndsInBreak n.text → IsFieldWord n.text
  broken : EndsInBreak n.text → ¬ IsFieldWord n.text ∧ ∃ w, IsFieldWord w ∧ n.text = w ++ "\n"

theorem FieldName.formed (n : FieldName) : n.Formed where
  word := n.isFieldWord_iff.2
  broken last := by
    refine ⟨fun word => word.not_endsInBreak last, ?_⟩
    rcases fieldNameFault?_eq_none_iff.1 n.valid with word | ⟨w, word, _, broken⟩
    · exact absurd last word.not_endsInBreak
    · exact ⟨w, word, broken⟩

/-- The names of a field that is made are the given ones, the store name being the name where none is
given, and they are words, except for a line break that may stand at the end. Every word is taken for a
name; and in queries the store names of declared fields, and nothing else, stand behind the at signs. -/
theorem Field.names_formed {f : Field} {name store : Value} (made : f.Made name store) :
    name = .text f.name.text
    ∧ (store = .null ∧ f.storeName = f.name ∨ store = .text f.storeName.text)
    ∧ f.name.Formed ∧ f.storeName.Formed
    ∧ (∀ w, IsFieldWord w → ∃ n, checkFieldName (.text w) = .ok n ∧ n.text = w)
    ∧ (∀ c, FieldChar c → isBlank c = false ∧ 33 ≤ c.toNat ∧ c.toNat < 127
      ∧ (isQueryPunctuation c = true → c ∈ ['-', '.', '$', '[', ']', '*']))
    ∧ ∀ (c : Compiler) node o plan, node.MadeOf (Condition.Built c.schema) →
      c.compile node o = .ok plan → ∃ before tail, plan.query = before ++ tail
        ∧ (∀ after ∈ afterMarks before.toList, c.schema.StartsWithField after)
        ∧ (tail = "" ∨ ∃ f ∈ c.schema.fields, ∃ k column param name, plan.scoreFields = [column]
          ∧ c.settings.vectorParamName.display = .ok param ∧ column.display = .ok name
          ∧ tail = "=>[KNN " ++ k ++ " @" ++ f.storeName.text ++ " $" ++ param ++ " AS " ++ name
            ++ "]") := by
  obtain ⟨named, stored⟩ := made.names
  refine ⟨named, stored, f.name.formed, f.storeName.formed, fun w => checkFieldName_word, ?_, ?_⟩
  · intro c known
    obtain ⟨low, high⟩ := known.graphic
    exact ⟨isBlank_graphic low high, low, high, known.punctuation⟩
  · exact fun c node o plan => Compiler.compile_marks

theorem Field.names_formed_price :
    ∃ f, Field.ofArguments
        [("name", .text "price"), ("type", .text "number"), ("store_name", .text "p")] none = .ok f
      ∧ IsFieldWord f.name.text ∧ IsFieldWord f.storeName.text
      ∧ ∃ plan before tail, (Compiler.mk Products.schema {}).compile Products.isHat {} = .ok plan
        ∧ plan.query = before ++ tail
        ∧ ∀ after ∈ afterMarks before.toList, Products.schema.StartsWithField after := by
  have priced : ∃ f, Field.ofArguments
        [("name", .text "price"), ("type", .text "number"), ("store_name", .text "p")] none = .ok f
      ∧ f.name.text = "price" ∧ f.storeName.text = "p" := ⟨_, rfl, rfl, rfl⟩
  obtain ⟨f, priced, name, store⟩ := priced
  have planned : ∃ plan, (Compiler.mk Products.schema {}).compile Products.isHat {} = .ok plan :=
    ⟨_, rfl⟩
  obtain ⟨plan, planned⟩ := planned
  obtain ⟨_, _, first, second, _, _, marks⟩ := names_formed (.arguments priced)
  obtain ⟨before, tail, query, after, _⟩ :=
    marks _ _ _ plan (Condition.madeOf_leaf.2 Products.isHat_built) planned
  refine ⟨f, priced, first.word ?_, second.word ?_, plan, before, tail, planned, query, after⟩
  · rw [name]
    decide
  · rw [store]
    decide

/-- A name with a line break at its end is taken, and the break goes out before the colon. -/
theorem Field.name_broken :
    ∃ f s leaf t, Field.ofArguments [("name", .text "price\n"), ("type", .text "number")] none = .ok f
      ∧ ¬ IsFieldWord f.name.text ∧ ¬ IsFieldWord f.storeName.text
      ∧ Schema.ofCandidates (.text "Product") [.inr f] {} = .ok s
      ∧ Condition.equals (.field f .schema) (.int 5) = .ok leaf
      ∧ s.conditionText leaf = .ok t ∧ t = "@price\n:[5 5]" := by
  refine ⟨_, _, _, _, rfl, ?_, ?_, rfl, rfl, rfl, ?_⟩
  · exact fun word => word.not_endsInBreak (by decide)
  · exact fun word => word.not_endsInBreak (by decide)
  · decide +kernel

end TypedQuery
