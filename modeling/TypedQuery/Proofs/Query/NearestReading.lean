import TypedQuery.Proofs.Number.IntegerReading
import TypedQuery.Proofs.Query.ArrowFree
import TypedQuery.Proofs.Query.Expressible
import TypedQuery.Proofs.Query.NearestPlan

/-! # Reading the nearest-neighbour clause back

The clause behind the arrow is six words in brackets. Of these only the name of the distance column
is taken over from the caller as it is: the query is read back, or not at all, according to whether
that name holds a blank or a closing bracket. -/

namespace TypedQuery
set_option autoImplicit false

/-! ## The reader -/

/-- What a query for nearest neighbours says, apart from what its conditions mean. -/
structure NearestReading where
  before : String
  k : Int
  column : String
  param : String
  distance : String
  deriving DecidableEq, Repr

/-- What stands between brackets, where the first that closes is the last character. -/
def betweenBrackets : List Char → Option (List Char)
  | [] => none
  | c :: rest =>
    if c = '[' ∧ rest.dropWhile (· ≠ ']') = [']'] then some (rest.takeWhile (· ≠ ']')) else none

/-- The words of a text, with a cut at every blank. -/
def wordsAtBlanks (cs : List Char) : List String := (cs.splitOnP isBlank).map String.ofList

/-- A word without the mark before it. -/
def withoutMark (mark : Char) (word : String) : Option String :=
  if word.toList.head? = some mark then some (String.ofList word.toList.tail) else none

def readNearestWords (before : List Char) : List String → Option NearestReading
  | [knn, k, column, param, as, distance] =>
    if knn = "KNN" ∧ as = "AS" then do
      let k ← readInt? k
      let column ← withoutMark '@' column
      let param ← withoutMark '$' param
      return ⟨String.ofList before, k, column, param, distance⟩
    else none
  | _ => none

/-- A query for nearest neighbours: an arrow, and behind it six words in brackets. -/
def readNearest (query : String) : Option NearestReading := do
  let (before, clause) ← cutAtArrow query.toList
  let words ← betweenBrackets clause
  readNearestWords before (wordsAtBlanks words)

/-! ## Words -/

/-- The word can stand in a clause: nothing in it ends the word or the clause. -/
def Unbroken (word : String) : Prop := ∀ c ∈ word.toList, isBlank c = false ∧ c ≠ ']'

instance (word : String) : Decidable (Unbroken word) :=
  decidable_of_iff ((word.toList.all fun c => isBlank c = false ∧ c ≠ ']') = true) (by
    simp only [List.all_eq_true, decide_eq_true_eq, Unbroken])

theorem Unbroken.append {t u : String} (front : Unbroken t) (back : Unbroken u) :
    Unbroken (t ++ u) := by
  intro c hc
  rw [String.toList_append] at hc
  exact (List.mem_append.1 hc).elim (front c) (back c)

theorem unbroken_char {c : Char} (h : c.isAlphanum = true ∨ c = '_') :
    isBlank c = false ∧ c ≠ ']' := by
  rcases h with plain | rfl
  · have known : FieldChar c := continuesFieldName_iff.1 (by simp [continuesFieldName, plain])
    refine ⟨isBlank_graphic known.graphic.1 known.graphic.2, ?_⟩
    rintro rfl
    exact absurd plain (by decide)
  · decide

theorem unbroken_intText (n : Int) : Unbroken (intText n) := by
  intro c hc
  have known : c.isDigit = true ∨ c ∈ ['+', '-', '.', 'e', 'i', 'n', 'f'] := by
    simpa [isTokenChar] using intText_tokenChars n c hc
  rcases known with digit | mark
  · have plain : c.isAlphanum = true := Bool.or_eq_true_iff.2 (.inr digit)
    exact unbroken_char (.inl plain)
  · simp only [List.mem_cons, List.not_mem_nil, or_false] at mark
    rcases mark with rfl | rfl | rfl | rfl | rfl | rfl | rfl
    all_goals decide

/-! ## Sentences of words -/

theorem wordsAtBlanks_unbroken {word : String} (unbroken : Unbroken word) :
    wordsAtBlanks word.toList = [word] := by
  rw [wordsAtBlanks, List.splitOnP_eq_singleton fun c hc => (unbroken c hc).1]
  simp

theorem wordsAtBlanks_join {words : List String} (unbroken : ∀ w ∈ words, Unbroken w)
    (last : String) :
    wordsAtBlanks (joinTexts " " (words ++ [last])).toList = words ++ wordsAtBlanks last.toList := by
  induction words with
  | nil => rfl
  | cons w rest ih =>
    have first := unbroken w (List.mem_cons_self ..)
    have others := ih fun v hv => unbroken v (List.mem_cons_of_mem _ hv)
    obtain ⟨next, more, e⟩ : ∃ next more, rest ++ [last] = next :: more := by
      cases rest <;> simp
    have split : (joinTexts " " (w :: rest ++ [last])).toList
        = w.toList ++ ' ' :: (joinTexts " " (rest ++ [last])).toList := by
      rw [List.cons_append, e, joinTexts]
      simp
    rw [split, wordsAtBlanks, List.splitOnP_append_cons_of_forall_mem (fun c hc => (first c hc).1) ' '
      (by decide), List.map_cons, String.ofList_toList, ← wordsAtBlanks, others, List.cons_append]

/-- A blank cuts a word into two at least. -/
theorem two_le_wordsAtBlanks {cs : List Char} (blank : ∃ c ∈ cs, isBlank c = true) :
    2 ≤ (wordsAtBlanks cs).length := by
  obtain ⟨c, found⟩ := Option.isSome_iff_exists.1 (List.find?_isSome.2 blank)
  obtain ⟨cut, before, after, rfl, free⟩ := List.find?_eq_some_iff_append.1 found
  have first : ∀ b ∈ before, isBlank b = false := fun b hb => by simpa using free b hb
  have rest := List.length_pos_iff.2 (List.splitOnP_ne_nil isBlank after)
  rw [wordsAtBlanks, List.length_map, List.splitOnP_append_cons_of_forall_mem first c cut,
    List.length_cons]
  omega

/-! ## Brackets -/

theorem betweenBrackets_closed {body : List Char} (inside : ']' ∉ body) :
    betweenBrackets ('[' :: body ++ [']']) = some body := by
  have free : ∀ c ∈ body, decide (c ≠ ']') = true := by
    intro c hc
    exact decide_eq_true fun e => inside (e ▸ hc)
  have after : (body ++ [']']).dropWhile (· ≠ ']') = [']'] := List.dropWhile_append_of_pos free
  have before : (body ++ [']']).takeWhile (· ≠ ']') = body := by
    rw [List.takeWhile_append_of_pos free]
    simp
  rw [List.cons_append, betweenBrackets, if_pos ⟨rfl, after⟩, before]

theorem betweenBrackets_broken {body : List Char} (inside : ']' ∈ body) :
    betweenBrackets ('[' :: body ++ [']']) = none := by
  obtain ⟨before, after, rfl, free⟩ := List.eq_append_cons_of_mem inside
  have front : ∀ c ∈ before, decide (c ≠ ']') = true := by
    intro c hc
    exact decide_eq_true fun e => free (e ▸ hc)
  have rest : (before ++ ']' :: after ++ [']']).dropWhile (· ≠ ']') = ']' :: after ++ [']'] := by
    rw [List.append_assoc, List.dropWhile_append_of_pos front]
    rfl
  rw [List.cons_append, betweenBrackets, rest, if_neg]
  simp

/-! ## Clauses -/

/-- The words of a clause. -/
def nearestWords (k : Int) (column param distance : String) : List String :=
  ["KNN", intText k, "@" ++ column, "$" ++ param, "AS"] ++ [distance]

/-- A query for nearest neighbours, as it is written. -/
def nearestQuery (before : String) (k : Int) (column param distance : String) : String :=
  before ++ "=>" ++ inBrackets (joinTexts " " (nearestWords k column param distance))

variable {before column param distance : String} {k : Int}

theorem mem_joinTexts {c : Char} (hc : c ≠ ' ') (ts : List String) :
    c ∈ (joinTexts " " ts).toList ↔ ∃ t ∈ ts, c ∈ t.toList := by
  induction ts with
  | nil => simp [joinTexts]
  | cons t rest ih =>
    cases rest with
    | nil => simp [joinTexts]
    | cons u more =>
      rw [joinTexts, String.toList_append, String.toList_append]
      simp [ih, hc]

theorem toList_nearestQuery : (nearestQuery before k column param distance).toList
    = before.toList ++ '=' :: '>' ::
      ('[' :: (joinTexts " " (nearestWords k column param distance)).toList ++ [']']) := by
  simp [nearestQuery, inBrackets]

theorem readNearest_nearestQuery (guarded : Guarded before.toList) :
    readNearest (nearestQuery before k column param distance) = (do
      let words ← betweenBrackets
        ('[' :: (joinTexts " " (nearestWords k column param distance)).toList ++ [']'])
      readNearestWords before.toList (wordsAtBlanks words)) := by
  rw [readNearest, toList_nearestQuery, cutAtArrow_guarded guarded]
  rfl

theorem withoutMark_marked {mark : String} {m : Char} (single : mark.toList = [m]) (word : String) :
    withoutMark m (mark ++ word) = some word := by
  have chars : (mark ++ word).toList = m :: word.toList := by
    rw [String.toList_append, single]
    rfl
  rw [withoutMark, chars, List.head?_cons, if_pos rfl, List.tail_cons, String.ofList_toList]

theorem readNearestWords_six (short : (decimalDigits k.natAbs).length ≤ longestInteger) :
    readNearestWords before.toList (nearestWords k column param distance)
      = some ⟨before, k, column, param, distance⟩ := by
  have bareColumn : withoutMark '@' ("@" ++ column) = some column :=
    withoutMark_marked (by decide) column
  have bareParam : withoutMark '$' ("$" ++ param) = some param :=
    withoutMark_marked (by decide) param
  simp [readNearestWords, nearestWords, readInt?_intText short, bareColumn, bareParam]

theorem readNearestWords_of_length {words : List String} {front : List Char}
    (h : words.length ≠ 6) : readNearestWords front words = none := by
  unfold readNearestWords
  split
  · exact absurd rfl h
  · rfl

section

variable (guarded : Guarded before.toList) (columnUnbroken : Unbroken column)
  (paramUnbroken : Unbroken param)
include columnUnbroken paramUnbroken

theorem unbroken_fixed : ∀ w ∈ ["KNN", intText k, "@" ++ column, "$" ++ param, "AS"], Unbroken w := by
  have markedColumn : Unbroken ("@" ++ column) := Unbroken.append (by decide) columnUnbroken
  have markedParam : Unbroken ("$" ++ param) := Unbroken.append (by decide) paramUnbroken
  have knn : Unbroken "KNN" := by decide
  have as : Unbroken "AS" := by decide
  simp [markedColumn, markedParam, knn, as, unbroken_intText]

theorem bracket_mem_clause :
    ']' ∈ (joinTexts " " (nearestWords k column param distance)).toList ↔ ']' ∈ distance.toList := by
  have fixed := unbroken_fixed (k := k) columnUnbroken paramUnbroken
  rw [mem_joinTexts (by decide), nearestWords]
  constructor
  · rintro ⟨w, hw, met⟩
    rcases List.mem_append.1 hw with hw | hw
    · exact absurd rfl (fixed w hw ']' met).2
    · rwa [List.mem_singleton.1 hw] at met
  · exact fun met => ⟨distance, by simp, met⟩

include guarded

/-- A query is read back if its last word is unbroken, and otherwise not at all. -/
theorem readNearest_unbroken (short : (decimalDigits k.natAbs).length ≤ longestInteger)
    (unbroken : Unbroken distance) :
    readNearest (nearestQuery before k column param distance)
      = some ⟨before, k, column, param, distance⟩ := by
  have closed : ']' ∉ (joinTexts " " (nearestWords k column param distance)).toList := by
    rw [bracket_mem_clause columnUnbroken paramUnbroken]
    exact fun met => (unbroken ']' met).2 rfl
  have words := wordsAtBlanks_join (unbroken_fixed (k := k) columnUnbroken paramUnbroken) distance
  rw [wordsAtBlanks_unbroken unbroken] at words
  rw [readNearest_nearestQuery guarded, betweenBrackets_closed closed]
  exact (congrArg _ words).trans (readNearestWords_six short)

theorem readNearest_broken (broken : ¬ Unbroken distance) :
    readNearest (nearestQuery before k column param distance) = none := by
  rw [readNearest_nearestQuery guarded]
  by_cases inside : ']' ∈ distance.toList
  · rw [betweenBrackets_broken ((bracket_mem_clause columnUnbroken paramUnbroken).2 inside)]
    rfl
  · have blank : ∃ c ∈ distance.toList, isBlank c = true := by
      by_contra none
      refine broken fun c hc => ⟨?_, fun e => inside (e ▸ hc)⟩
      exact Bool.eq_false_iff.2 fun isBlank_c => none ⟨c, hc, isBlank_c⟩
    have words := wordsAtBlanks_join (unbroken_fixed (k := k) columnUnbroken paramUnbroken) distance
    have many := two_le_wordsAtBlanks blank
    rw [betweenBrackets_closed (mt (bracket_mem_clause columnUnbroken paramUnbroken).1 inside)]
    refine readNearestWords_of_length ?_
    rw [nearestWords, words, List.length_append]
    simp only [List.length_cons, List.length_nil]
    omega

end

/-! ## Plans -/

namespace Compiler

open Condition Schema

variable {s : Schema}

/-- The name of the distance column is the one that was given, or one made of the store name. -/
theorem scoreColumn_eq_ok {clause : NearestClause} {column : Value}
    (named : clause.scoreAlias = .null ∨ ∃ t, clause.scoreAlias = .text t)
    (h : (Compiler.mk s {}).scoreColumn clause = .ok column) :
    ∃ distance, column = .text distance
      ∧ (clause.scoreAlias.truthy = true → clause.scoreAlias = .text distance)
      ∧ (clause.scoreAlias.truthy = false →
        distance = "__" ++ clause.field.storeName.text ++ "_score") := by
  unfold scoreColumn at h
  split at h
  · rename_i given
    cases h
    rcases named with null | ⟨t, text⟩
    · rw [null] at given
      cases given
    · exact ⟨t, text, fun _ => text, fun none => absurd given (by simp [none])⟩
  · rename_i none
    dsimp only at h
    rw [fill_default] at h
    cases h
    exact ⟨_, rfl, fun given => absurd given none, fun _ => rfl⟩

/-- A built predicate that is met in a tree is on a field of the schema and has an integer. -/
theorem nearest_of_made {node : Condition} {target : Target} {k vector scoreAlias : Value}
    (made : node.MadeOf (Condition.Built s))
    (once : node.nearestLeaves = [.leaf target (.nearest k vector scoreAlias)]) :
    ∃ f ∈ s.fields, ∃ n : Int, target = .field f .schema ∧ k = .int n ∧ 1 ≤ n
      ∧ n ≤ mostNeighbours := by
  have met : leaf target (.nearest k vector scoreAlias) ∈ node.nearestLeaves := by
    rw [once]
    exact List.mem_singleton_self _
  rcases made _ (List.mem_filter.1 met).1 with group | built
  · cases group
  · obtain ⟨f, p, declared, e, well⟩ := built.wellMade
    cases e
    cases well with
    | nearest _ low high _ => exact ⟨f, declared, _, rfl, rfl, low, high⟩

/-- What stands before the arrow is written with conditions, whether alone or in parentheses. -/
theorem written_prefilter {node l : Condition} {filter : String}
    (made : node.MadeOf (Condition.Built s)) (near : l.isNearest = true)
    (once : node.nearestLeaves = [l]) (top : node.nearestOnTop = true)
    (written : s.conditionText node.withoutNearest = .ok filter) :
    s.Written (if filter = wildcard then filter else inParentheses filter).toList := by
  obtain ⟨others, place, apart⟩ := around_of_onTop once top
  have rest : node.withoutNearest.MadeOf (Condition.Built s) :=
    madeOf_withoutNearest near place apart (made.mono fun _ _ => .inr)
  have conditions := written_conditionText rest written
  split
  · exact conditions
  · exact written_around (by decide) conditions

/-- The query of a plan for nearest neighbours is read back, to the number of neighbours, the store
name of the field and the distance column of the plan, if the name that the caller gave that column
holds no blank and no closing bracket. If it holds one, the query is not read at all. The name that is
made up where the caller gives none holds neither. -/
theorem compile_nearest_read {node : Condition} {o : SearchOptions} {p : Plan} {target : Target}
    {k vector scoreAlias : Value}
    (names : ∀ f ∈ s.fields, ∀ c ∈ f.storeName.text.toList, c.isAlphanum = true ∨ c = '_')
    (made : node.MadeOf (Condition.Built s))
    (once : node.nearestLeaves = [.leaf target (.nearest k vector scoreAlias)])
    (named : scoreAlias = .null ∨ ∃ t, scoreAlias = .text t)
    (compiled : (Compiler.mk s {}).compile node o = .ok p) :
    ∃ f ∈ s.fields, ∃ (n : Int) (before distance : String),
      target = .field f .schema ∧ k = .int n ∧ s.byStoreName? f.storeName.text = some f
      ∧ p.scoreFields = [.text distance]
      ∧ p.query = before ++ "=>[KNN " ++ intText n ++ " @" ++ f.storeName.text
        ++ " $query_vector AS " ++ distance ++ "]"
      ∧ (scoreAlias.truthy = true → scoreAlias = .text distance)
      ∧ (scoreAlias.truthy = false → Unbroken distance)
      ∧ (Unbroken distance →
        readNearest p.query = some ⟨before, n, f.storeName.text, "query_vector", distance⟩)
      ∧ (¬ Unbroken distance → readNearest p.query = none) := by
  obtain ⟨q, _, asked, _, _, _, query, _, scores, _⟩ := compile_eq_ok compiled
  obtain ⟨top, f, _, _, rfl, _, _, _, filter, column, written, scored, count, vector, name, counted,
    shown, entitled, rfl⟩ := question_eq_ok once asked
  obtain ⟨g, declared, n, same, rfl, low, high⟩ := nearest_of_made made once
  cases same
  obtain ⟨distance, rfl, given, standard⟩ := scoreColumn_eq_ok named scored
  have guarded := (written_prefilter made rfl once top written).guarded
  generalize (if filter = wildcard then filter else inParentheses filter) = before at query guarded
  have number : count = intText n := by
    rw [Value.display_eq_ok, Value.display?_int, intText?_eq_some] at counted
    exact counted.2
  obtain rfl : "query_vector" = vector := Except.ok.inj shown
  obtain rfl : distance = name := Except.ok.inj entitled
  have text : p.query = nearestQuery before n f.storeName.text "query_vector" distance := by
    rw [query, number]
    rfl
  have store : Unbroken f.storeName.text := fun c hc => unbroken_char (names f declared c hc)
  have param : Unbroken "query_vector" := by decide
  have few : n.natAbs < 10 ^ (4 + 1) := by
    have bound : n ≤ 10000 := high
    omega
  have short : (decimalDigits n.natAbs).length ≤ longestInteger :=
    Nat.le_trans (length_decimalDigits_le 4 few) (by decide)
  refine ⟨f, declared, n, before, distance, rfl, rfl, byStoreName?_of_mem declared, scores, ?_,
    given, ?_, ?_, ?_⟩
  · rw [text, ← String.toList_inj]
    simp [nearestQuery, nearestWords, inBrackets, joinTexts]
  · intro none
    have front : Unbroken "__" := by decide
    have back : Unbroken "_score" := by decide
    rw [standard none]
    exact (front.append store).append back
  · intro unbroken
    rw [text]
    exact readNearest_unbroken guarded store param short unbroken
  · intro broken
    rw [text]
    exact readNearest_broken guarded store param broken

theorem compile_nearest_read_hats :
    ∃ p before, (Compiler.mk Products.schema {}).compile
        (.all [Products.isHat, Products.looksAlike (.text "distance")]) {} = .ok p
      ∧ p.scoreFields = [.text "distance"]
      ∧ readNearest p.query = some ⟨before, 3, "image", "query_vector", "distance"⟩ := by
  have all_names : (Products.schema.fields.all fun f => f.storeName.text.toList.all fun c =>
      c.isAlphanum = true ∨ c = '_') = true := by decide
  have names : ∀ f ∈ Products.schema.fields, ∀ c ∈ f.storeName.text.toList,
      c.isAlphanum = true ∨ c = '_' := by
    simpa only [List.all_eq_true, decide_eq_true_eq] using all_names
  have made : (all [Products.isHat, Products.looksAlike (.text "distance")]).MadeOf
      (Condition.Built Products.schema) := Products.nearHats_made
  have once : (all [Products.isHat, Products.looksAlike (.text "distance")]).nearestLeaves
      = [Products.looksAlike (.text "distance")] := rfl
  have planned : ∃ p, (Compiler.mk Products.schema {}).compile
        (.all [Products.isHat, Products.looksAlike (.text "distance")]) {} = .ok p := ⟨_, rfl⟩
  obtain ⟨p, compiled⟩ := planned
  obtain ⟨f, _, n, before, distance, field, number, _, scores, _, given, _, read, _⟩ :=
    compile_nearest_read names made once (.inr ⟨_, rfl⟩) compiled
  cases field
  cases number
  cases given (by decide)
  exact ⟨p, before, compiled, scores, read (by decide)⟩

/-- A name with a bracket and a blank in it is accepted, and ends the clause early. -/
theorem nearest_broken_by_name :
    ∃ leaf p, Condition.nearest (.field Products.image .schema) (.int 3) (.bytes ⟨#[0, 0, 0, 0]⟩)
        (.text "near] x") = .ok leaf
      ∧ (Compiler.mk Products.schema {}).compile leaf {} = .ok p
      ∧ p.query = "*=>[KNN 3 @image $query_vector AS near] x]"
      ∧ p.scoreFields = [.text "near] x"]
      ∧ readNearest p.query = none := by
  refine ⟨_, _, rfl, rfl, ?_, rfl, ?_⟩
  · decide +kernel
  · decide +kernel

end Compiler

end TypedQuery
