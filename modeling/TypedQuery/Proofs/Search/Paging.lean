import TypedQuery.Proofs.Reply.Faults
import TypedQuery.Proofs.Search.Pages

/-! # Page by page, whatever is answered

Replies decide how many pages are fetched, and a store may answer anything. If the first page can be
asked for then so can every other, so that from the first call on only the transport and its replies
fail. The windows move on by a page with each call, and the loop ends at the number of matches that
is claimed. -/

namespace TypedQuery
set_option autoImplicit false

/-! ## Faults of the question -/

/-- The faults that asking may have: of an argument, the schema, a predicate or the whole query. -/
inductive Error.OfQuestion : Error → Prop
  | input (fault : InputFault) : OfQuestion (.input fault)
  | schema (fault : SchemaFault) : OfQuestion (.schema fault)
  | mismatch (fault : MismatchFault) : OfQuestion (.mismatch fault)
  | vectorLength (given expected dimension width : Nat) (type : String) :
    OfQuestion (.vectorLength given expected dimension width type)
  | query (fault : QueryFault) : OfQuestion (.query fault)

theorem Error.OfReply.not_ofQuestion {e : Error} (h : e.OfReply) : ¬ e.OfQuestion := by
  cases h <;> rintro ⟨⟩

theorem readTags_failsOnly (separator : Value) (text : String) :
    FailsOnly (¬ Error.OfQuestion ·) (readTags separator text) := by
  by_cases empty : text = ""
  · unfold readTags
    rw [if_pos empty]
    exact failsOnly_ok
  · by_cases separates : separator.SeparatesTags
    · obtain ⟨tags, read⟩ := readTags_separated separates text
      rw [read]
      exact failsOnly_ok
    · rw [readTags_unseparated separates empty]
      exact failsOnly_error (by rintro ⟨⟩)

theorem Decoder.decode_not_ofQuestion {d : Decoder} {scoreFields : List Value} (reply : Value) :
    FailsOnly (¬ Error.OfQuestion ·) (d.decode scoreFields reply) :=
  decode_failsOnly (fun _ found => found.not_ofQuestion)
    (fun f _ _ _ text => readTags_failsOnly f.separator text) fun _ => by rintro ⟨⟩

/-! ## Plans of first pages -/

namespace Compiler

variable {c : Compiler} {node : Condition} {o : SearchOptions} {plan : Plan}

/-- A page that has a plan is small, and the search has a plan without it. -/
theorem compile_of_page {keysOnly : Bool} {offset count : Value} {paged : Plan}
    (given : count ≠ .null) (all : o.returnFields = .null) (start : o.offset = .int 0)
    (whole : o.count = .null)
    (compiled : c.compile node (Search.keysOnlyIf keysOnly { o with offset, count }) = .ok paged) :
    (∃ size : Nat, count = .int size ∧ size ≤ largestWindow)
      ∧ ∃ plan, c.compile node o = .ok plan := by
  obtain ⟨q, asked, compiled⟩ := bind_eq_ok.1 compiled
  obtain ⟨sort, sorted, compiled⟩ := bind_eq_ok.1 compiled
  obtain ⟨columns, _, compiled⟩ := bind_eq_ok.1 compiled
  obtain ⟨limit, window, _⟩ := bind_eq_ok.1 compiled
  constructor
  · have counted : (Search.keysOnlyIf keysOnly { o with offset, count }).count = count := by
      cases keysOnly <;> rfl
    unfold windowOf at window
    rw [counted] at window
    split at window
    · contradiction
    · obtain ⟨⟨first, size⟩, checked, _⟩ := bind_eq_ok.1 window
      obtain ⟨_, sized, small⟩ :=
        (checkWindow_decides _ _ isShort_largestWindow).of_ok (mapError_eq_ok.1 checked)
      exact ⟨size, sized, small⟩
  · have again : c.sortClause o q.scoreFields = .ok sort := by
      rw [← sorted]
      cases keysOnly <;> rfl
    have every : ∃ columns, c.returnColumns o q.scoreFields = .ok columns := by
      rw [returnColumns, all]
      exact ⟨_, rfl⟩
    have unlimited : windowOf o = .ok none := by
      rw [windowOf, whole, start]
      rfl
    obtain ⟨columns, every⟩ := every
    unfold compile
    rw [asked, ok_bind, again, ok_bind, every, ok_bind, unlimited]
    exact ⟨_, rfl⟩

end Compiler

/-! ## Replies to calls -/

/-- What a call gives after others: its reply, decoded. -/
def Search.received (s : Search) (t : Transport) (scoreFields : List Value) (past : List Call)
    (call : Call) : Result Decoded := do
  let reply ← (t.respond past call).mapError .store
  s.decoder.decode scoreFields reply

theorem Search.received_failsOnly (s : Search) (t : Transport) (scoreFields : List Value)
    (past : List Call) (call : Call) :
    FailsOnly (¬ Error.OfQuestion ·) (s.received t scoreFields past call) := by
  have sent : FailsOnly (¬ Error.OfQuestion ·) ((t.respond past call).mapError Error.store) :=
    failsOnly_mapError fun text => by rintro ⟨⟩
  exact sent.bind fun reply _ => Decoder.decode_not_ofQuestion reply

namespace Products

/-- Whatever is asked, the store claims three hats and sends two of them. -/
def lavish : Transport where
  respond _ _ := .ok (.list (.int 3 :: [sentHat "1", sentHat "2"].flatMap (SentHit.items schema)))
  spellsOut := false

def twoHats : List Record := [⟨"1", "Product:1", [("kind", .text "hat")], []⟩,
  ⟨"2", "Product:2", [("kind", .text "hat")], []⟩]

theorem received_lavish (past : List Call) (call : Call) :
    hats.received lavish [] past call = .ok ⟨3, twoHats⟩ := by
  have counted := Decoder.countOf_int (n := 3) (by decide)
  have decoded : List.Forall₂ (fun h r => hats.decoder.sentRecord [] h = .ok r)
      [sentHat "1", sentHat "2"] twoHats := .cons rfl (.cons rfl .nil)
  have whole : hats.decoder.decode [] (.list (.int 3 :: [sentHat "1", sentHat "2"].flatMap
      (SentHit.items schema))) = .ok ⟨3, twoHats⟩ :=
    (Decoder.decode_eq_ok (d := hats.decoder) rfl counted).2 ⟨rfl, decoded⟩
  exact whole

end Products

/-! ## The loop -/

namespace Search

/-- From one page on, with so many calls allowed: the calls that are made, and the outcome. -/
inductive Course (page : Nat → Result Decoded) (size : Nat) :
    Nat → Nat → Nat → Result (Option (List Record)) → Prop
  | unfinished (i : Nat) : Course page size 0 i 0 (.ok none)
  | failed {calls i : Nat} {e : Error} : page i = .error e →
    Course page size (calls + 1) i 1 (.error e)
  | last {calls i : Nat} {decoded : Decoded} :
    page i = .ok decoded → hasMore decoded size ((i + 1) * size) = false →
    Course page size (calls + 1) i 1 (.ok (some decoded.records))
  | more {calls i made : Nat} {decoded : Decoded} {rest : Result (Option (List Record))} :
    page i = .ok decoded → hasMore decoded size ((i + 1) * size) = true →
    Course page size calls (i + 1) made rest →
    Course page size (calls + 1) i (made + 1)
      (rest >>= fun records => .ok (records.map (decoded.records ++ ·)))

namespace Course

variable {page : Nat → Result Decoded} {size calls i made : Nat}
variable {r : Result (Option (List Record))}

theorem made_pos (course : Course page size calls i made r) (allowed : 0 < calls) : 0 < made := by
  cases course with
  | unfinished => cases allowed
  | _ => omega

theorem made_of_unfinished (course : Course page size calls i made r) (h : r = .ok none) :
    made = calls := by
  induction course with
  | unfinished => rfl
  | failed => cases h
  | last => cases h
  | @more _ _ _ _ rest _ _ _ ih =>
    obtain ⟨records, fetched, h⟩ := bind_eq_ok.1 h
    cases records with
    | none => rw [ih fetched]
    | some => cases h

theorem more_of_hasMore {decoded : Decoded} {total : Int}
    (more : hasMore decoded size ((i + 1) * size) = true) (claimed : decoded.total ≤ total) :
    i * size + size < total.toNat := by
  simp only [hasMore, Bool.and_eq_true, decide_eq_true_eq, Nat.succ_mul] at more
  omega

/-- No more calls are made than the pages that the largest claimed number needs. -/
theorem bounded (course : Course page size calls i made r) (positive : 1 ≤ size) (total : Int)
    (claims : ∀ j decoded, i ≤ j → j < i + made → page j = .ok decoded → decoded.total ≤ total) :
    made ≤ pageCount (total.toNat - i * size) size
      ∧ (pageCount (total.toNat - i * size) size ≤ calls → r ≠ .ok none) := by
  induction course with
  | unfinished i =>
    have one : 1 ≤ pageCount (total.toNat - i * size) size := Nat.le_max_left ..
    exact ⟨by omega, fun enough => by omega⟩
  | failed => exact ⟨Nat.le_max_left .., fun _ => by simp⟩
  | last => exact ⟨Nat.le_max_left .., fun _ => by simp⟩
  | @more calls i made decoded rest fetched more _ ih =>
    -- the claim that there is more leaves one page less to be fetched
    have behind := more_of_hasMore more (claims i decoded (Nat.le_refl i) (by omega) fetched)
    have count := pageCount_more (n := total.toNat - i * size) positive (by omega)
    have next : total.toNat - i * size - size = total.toNat - (i + 1) * size := by
      rw [Nat.succ_mul]
      omega
    rw [next] at count
    obtain ⟨few, ends⟩ := ih fun j decoded first last => claims j decoded (by omega) (by omega)
    rw [count]
    refine ⟨by omega, fun enough outcome => ?_⟩
    obtain ⟨records, all, outcome⟩ := bind_eq_ok.1 outcome
    cases records with
    | none => exact ends (by omega) all
    | some => cases outcome

theorem whole (course : Course page size calls i made r) {records : List Record}
    (h : r = .ok (some records)) :
    ∃ pages : List Decoded, pages.length = made
      ∧ (∀ j (decoded : Decoded), pages[j]? = some decoded → page (i + j) = .ok decoded)
      ∧ records = pages.flatMap Decoded.records := by
  induction course generalizing records with
  | unfinished => cases h
  | failed => cases h
  | @last _ i decoded fetched _ =>
    cases h
    refine ⟨[decoded], rfl, fun j found hj => ?_, by simp⟩
    cases j with
    | zero =>
      cases hj
      exact fetched
    | succ j => cases hj
  | @more _ i _ decoded rest fetched _ _ ih =>
    obtain ⟨behind, all, h⟩ := bind_eq_ok.1 h
    cases behind with
    | none => cases h
    | some behind =>
      cases h
      obtain ⟨pages, rfl, each, rfl⟩ := ih all
      refine ⟨decoded :: pages, rfl, fun j found hj => ?_, rfl⟩
      cases j with
      | zero =>
        cases hj
        exact fetched
      | succ j =>
        have moved : i + (j + 1) = i + 1 + j := by omega
        rw [moved]
        exact each j found hj

/-- A page that fails is the last one, and its error is the outcome. -/
theorem fails (course : Course page size calls i made r) {j : Nat} {e : Error} (after : i ≤ j)
    (asked : j < i + made) (failed : page j = .error e) : i + made = j + 1 ∧ r = .error e := by
  induction course with
  | unfinished => omega
  | @failed _ i _ first =>
    obtain rfl : j = i := by omega
    rw [first] at failed
    cases failed
    exact ⟨rfl, rfl⟩
  | @last _ i _ first _ =>
    obtain rfl : j = i := by omega
    rw [first] at failed
    cases failed
  | @more _ i _ _ _ first _ _ ih =>
    rcases Nat.eq_or_lt_of_le after with rfl | later
    · rw [first] at failed
      cases failed
    · obtain ⟨count, rfl⟩ := ih later (by omega)
      exact ⟨by omega, rfl⟩

theorem failed_last (course : Course page size calls i made r) {e : Error} (h : r = .error e) :
    ∃ j, i + made = j + 1 ∧ page j = .error e := by
  induction course with
  | unfinished => cases h
  | @failed _ i _ first =>
    cases h
    exact ⟨i, rfl, first⟩
  | last => cases h
  | @more _ i _ _ rest _ _ _ ih =>
    cases rest with
    | ok records => cases h
    | error e' =>
      cases h
      obtain ⟨j, count, failed⟩ := ih rfl
      exact ⟨j, by omega, failed⟩

/-- A page is followed by another just when more matches are claimed than it ends with. -/
theorem goes_on (course : Course page size calls i made r) (finished : r ≠ .ok none) {j : Nat}
    {decoded : Decoded} (after : i ≤ j) (asked : j < i + made) (fetched : page j = .ok decoded) :
    j + 1 < i + made ↔ hasMore decoded size ((j + 1) * size) = true := by
  induction course with
  | unfinished => omega
  | @failed _ i _ first =>
    obtain rfl : j = i := by omega
    rw [first] at fetched
    cases fetched
  | @last _ i _ first none =>
    obtain rfl : j = i := by omega
    rw [first] at fetched
    cases fetched
    simp [none]
  | @more calls i made _ rest first more behind ih =>
    have ended : rest ≠ .ok none := by
      rintro rfl
      exact finished rfl
    rcases Nat.eq_or_lt_of_le after with rfl | later
    · rw [first] at fetched
      cases fetched
      -- with no call left the rest would be unfinished
      have another : 0 < calls := by
        refine Nat.pos_of_ne_zero fun out => ?_
        subst out
        cases behind
        exact ended rfl
      have called := behind.made_pos another
      rw [iff_true_right more]
      omega
    · rw [← ih ended later (by omega)]
      omega

end Course

/-! ## The calls of the loop -/

variable {s : Search} {t : Transport} {plan : Plan} {keysOnly : Bool} {size : Nat}
variable {past made : List Call}

/-- What one page gives once the pages before it have been fetched. -/
def pageAfter (s : Search) (t : Transport) (past : List Call) (plan : Plan) (keysOnly : Bool)
    (size i : Nat) : Result Decoded :=
  s.fetched t (past ++ pageCalls plan keysOnly size 0 i) (plan.page keysOnly (i * size) size)

theorem pageCalls_succ_last (plan : Plan) (keysOnly : Bool) (size count : Nat) :
    pageCalls plan keysOnly size 0 (count + 1)
      = pageCalls plan keysOnly size 0 count ++ [(plan.page keysOnly (count * size) size).call] := by
  simp [pageCalls, List.range_succ]

theorem take_pageCalls {count i : Nat} (h : i ≤ count) :
    (pageCalls plan keysOnly size 0 count).take i = pageCalls plan keysOnly size 0 i := by
  rw [pageCalls, ← List.map_take, List.take_range, Nat.min_eq_left h, pageCalls]

theorem pagesFrom_course (compiled : s.compiler.compile s.conditions s.options = .ok plan)
    (t : Transport) (past : List Call) (keysOnly : Bool) (small : size ≤ largestWindow)
    (calls i : Nat) :
    ∃ made r, Course (s.pageAfter t past plan keysOnly size) size calls i made r
      ∧ (s.pagesFrom t size keysOnly calls (i * size)).Gives
        (past ++ pageCalls plan keysOnly size 0 i) r
        (pageCalls plan keysOnly size (i * size) made) := by
  -- on the calls that are left, after the calls for the pages before this one
  induction calls generalizing i with
  | zero => exact ⟨0, _, .unfinished i, Session.gives_pure _ _⟩
  | succ calls ih =>
    have page := gives_page compiled t (past ++ pageCalls plan keysOnly size 0 i) keysOnly
      (i * size) small
    cases outcome : s.pageAfter t past plan keysOnly size i with
    | error e =>
      rw [← pageAfter, outcome] at page
      refine ⟨1, _, .failed outcome, ?_⟩
      rw [pageCalls_succ]
      exact page.bind_error
    | ok decoded =>
      rw [← pageAfter, outcome] at page
      by_cases more : hasMore decoded size ((i + 1) * size) = true
      · obtain ⟨made, rest, course, gives⟩ := ih (i + 1)
        refine ⟨made + 1, _, .more outcome more course, ?_⟩
        rw [pageCalls_succ_last, ← List.append_assoc] at gives
        rw [Nat.succ_mul] at more gives
        rw [pageCalls_succ]
        refine page.bind ?_
        dsimp only
        rw [if_pos more]
        exact gives.bind_result fun records => Session.gives_pure _ _
      · refine ⟨1, _, .last outcome (by simpa using more), ?_⟩
        rw [Nat.succ_mul] at more
        rw [pageCalls_succ]
        refine page.bind ?_
        dsimp only
        rw [if_neg more]
        exact Session.gives_pure _ _

/-! ## First pages -/

theorem gives_page_refused {offset count : Value} {e : Error}
    (refused : s.compiler.compile s.conditions
      (keysOnlyIf keysOnly { s.options with offset, count }) = .error e)
    (t : Transport) (past : List Call) :
    (s.page t offset count keysOnly).Gives past (.error e) [] := by
  rw [← orConditions_conditions] at refused
  have failed : (s.plan (s.orConditions s.conditions)
      (keysOnlyIf keysOnly { s.options with offset, count })).Gives past (.error e) [] := by
    rw [← refused]
    exact (Session.gives_report _ past).before (Session.gives_lift _ past)
  exact failed.bind_error

theorem compile_of_firstPage {count : Value} {paged : Plan} (given : count ≠ .null)
    (compiled : s.compiler.compile s.conditions
      (keysOnlyIf keysOnly { s.options with offset := .int 0, count }) = .ok paged) :
    (∃ size : Nat, count = .int size ∧ size ≤ largestWindow)
      ∧ ∃ plan, s.compiler.compile s.conditions s.options = .ok plan := by
  have plain : s.options.returnFields = .null ∧ s.options.offset = .int 0
      ∧ s.options.count = .null := by
    unfold options
    split <;> exact ⟨rfl, rfl, rfl⟩
  exact Compiler.compile_of_page given plain.1 plain.2.1 plain.2.2 compiled

theorem pageSize_eq_ok {requested size : Value} (h : s.pageSize requested = .ok size) :
    size ≠ .null ∧ ∀ n : Int, size = .int n → 1 ≤ n := by
  unfold pageSize at h
  generalize (if requested.truthy then requested else s.settings.defaultPageSize) = chosen at h
  obtain ⟨small, compared, h⟩ := bind_eq_ok.1 h
  split at h
  · cases h
  · rename_i large
    cases h
    constructor
    · rintro null
      rw [null] at compared
      cases compared
    · rintro n sized
      rw [sized, Value.lessThan_int] at compared
      cases compared
      simpa using large

/-- Asking for all pages is refused: their size is, or the first of them. -/
inductive Refuses (s : Search) (requested : Value) (keysOnly : Bool) (e : Error) : Prop
  | size : s.pageSize requested = .error e → Refuses s requested keysOnly e
  | page {count : Value} : s.pageSize requested = .ok count →
    s.compiler.compile s.conditions
      (keysOnlyIf keysOnly { s.options with offset := .int 0, count }) = .error e →
    Refuses s requested keysOnly e

/-- All pages take some course, or asking is refused before any call. -/
theorem all_course (s : Search) (t : Transport) (requested : Value) (keysOnly : Bool) {calls : Nat}
    (allowed : 0 < calls) (past : List Call) :
    (∃ e, s.Refuses requested keysOnly e
        ∧ (s.all t calls requested keysOnly).Gives past (.error e) [])
      ∨ ∃ plan size made r, s.compiler.compile s.conditions s.options = .ok plan
        ∧ s.pageSize requested = .ok (.int (size : Nat)) ∧ 1 ≤ size ∧ size ≤ largestWindow
        ∧ Course (s.pageAfter t past plan keysOnly size) size calls 0 made r
        ∧ (s.all t calls requested keysOnly).Gives past r
          (pageCalls plan keysOnly size 0 made) := by
  have sized := Session.gives_lift (s.pageSize requested) past
  unfold all
  cases asked : s.pageSize requested with
  | error e =>
    rw [asked] at sized
    exact .inl ⟨e, .size asked, sized.bind_error⟩
  | ok count =>
    rw [asked] at sized
    obtain ⟨given, positive⟩ := pageSize_eq_ok asked
    cases first : s.compiler.compile s.conditions
        (keysOnlyIf keysOnly { s.options with offset := .int 0, count }) with
    | error e =>
      refine .inl ⟨e, .page asked first, sized.before ?_⟩
      have refused := gives_page_refused first t past
      cases count with
      | int n =>
        obtain ⟨rest, rfl⟩ := Nat.exists_eq_add_of_lt allowed
        have enough := positive n rfl
        have natural : ((n.toNat : Nat) : Int) = n := Int.toNat_of_nonneg (by omega)
        rw [← natural] at refused
        exact refused.bind_error
      | _ => exact refused.bind_error
    | ok paged =>
      obtain ⟨⟨size, rfl, small⟩, plan, compiled⟩ := compile_of_firstPage given first
      obtain ⟨made, r, course, gives⟩ := pagesFrom_course compiled t past keysOnly small calls 0
      have enough := positive size rfl
      rw [Nat.zero_mul] at gives
      simp only [pageCalls, List.range_zero, List.map_nil, List.append_nil] at gives
      exact .inr ⟨plan, size, made, r, compiled, rfl, by omega, small, course,
        sized.before gives⟩

/-! ## All pages, whatever is answered -/

/-- The calls ask for windows of a size, one behind the other, and otherwise for the same. -/
def InWindows (size : Nat) (made : List Call) : Prop :=
  ∃ index query before after, Value.lookup? before "LIMIT" = none
    ∧ ∀ (i : Nat) call, made[i]? = some call → call = ⟨index, query,
      before ++ [(.text "LIMIT", .map [(.text "from", .int (i * size : Nat)),
        (.text "size", .int size)])] ++ after⟩

/-- One of the calls, in the light of the calls before it, gives this. -/
def Receives (s : Search) (t : Transport) (scoreFields : List Value) (past made : List Call)
    (i : Nat) (r : Result Decoded) : Prop :=
  ∃ call, made[i]? = some call ∧ s.received t scoreFields (past ++ made.take i) call = r

/-- All matches are fetched in pages of a size, whatever is answered. -/
structure Paged (s : Search) (t : Transport) (scoreFields : List Value) (keysOnly : Bool)
    (size calls : Nat) (past made : List Call) (r : Result Answer) : Prop where
  asks : made ≠ []
  windows : InWindows size made
  bounded : ∀ total : Int,
    (∀ i page, s.Receives t scoreFields past made i (.ok page) → page.total ≤ total) →
      made.length ≤ pageCount total.toNat size
        ∧ (pageCount total.toNat size ≤ calls → r ≠ .ok .unfinished)
  unfinished : r = .ok .unfinished → made.length = calls
  goesOn : r ≠ .ok .unfinished → ∀ i page, s.Receives t scoreFields past made i (.ok page) →
    (i + 1 < made.length ↔ size ≤ page.records.length ∧ ((i + 1) * size : Nat) < page.total)
  whole : ∀ answer, r = .ok answer → answer ≠ .unfinished → ∃ pages : List Decoded,
    pages.length = made.length
      ∧ (∀ (i : Nat) page, pages[i]? = some page → s.Receives t scoreFields past made i (.ok page))
      ∧ answer = if keysOnly then .identifiers (pages.flatMap Decoded.ids)
        else .records (pages.flatMap Decoded.records)
  fails : ∀ i e, s.Receives t scoreFields past made i (.error e) →
    made.length = i + 1 ∧ r = .error e
  failed : ∀ e, r = .error e → ∃ i, s.Receives t scoreFields past made i (.error e)

theorem getElem?_pageCalls {count i : Nat} (h : i < count) :
    (pageCalls plan keysOnly size 0 count)[i]? = some (plan.page keysOnly (i * size) size).call := by
  simp [pageCalls, h]

theorem length_pageCalls (plan : Plan) (keysOnly : Bool) (size offset count : Nat) :
    (pageCalls plan keysOnly size offset count).length = count := by
  simp [pageCalls]

theorem lt_of_getElem?_pageCalls {count i : Nat} {call : Call}
    (h : (pageCalls plan keysOnly size 0 count)[i]? = some call) : i < count := by
  rw [← length_pageCalls plan keysOnly size 0 count]
  exact (List.getElem?_eq_some_iff.1 h).1

theorem inWindows_pageCalls (plan : Plan) (keysOnly : Bool) (size count : Nat) :
    InWindows size (pageCalls plan keysOnly size 0 count) := by
  refine ⟨plan.indexName, plan.query,
    plan.paramsEntry ++ [(.text "RETURN", .list (plan.columns keysOnly))] ++ plan.sortEntry,
    [(.text "DIALECT", plan.dialect)], ?_, fun i call found => ?_⟩
  · rw [Plan.paramsEntry, Plan.sortEntry]
    cases plan.params.isEmpty <;> cases plan.sort <;> rfl
  · rw [getElem?_pageCalls (lt_of_getElem?_pageCalls found)] at found
    cases found
    rfl

theorem receives_pageCalls {count i : Nat} {r : Result Decoded} :
    s.Receives t plan.scoreFields past (pageCalls plan keysOnly size 0 count) i r
      ↔ i < count ∧ s.pageAfter t past plan keysOnly size i = r := by
  constructor
  · rintro ⟨call, found, rfl⟩
    have made := lt_of_getElem?_pageCalls found
    rw [getElem?_pageCalls made] at found
    cases found
    rw [take_pageCalls (by omega)]
    exact ⟨made, rfl⟩
  · rintro ⟨made, rfl⟩
    refine ⟨_, getElem?_pageCalls made, ?_⟩
    rw [take_pageCalls (by omega)]
    rfl

/-- What is answered once the records of all pages are there, or are not. -/
def answerOf (keysOnly : Bool) : Option (List Record) → Answer
  | none => .unfinished
  | some records =>
    if keysOnly then .identifiers (records.map Record.identifier) else .records records

theorem answerOf_eq_unfinished {records : Option (List Record)} :
    answerOf keysOnly records = .unfinished ↔ records = none := by
  cases records with
  | none => simp [answerOf]
  | some records => cases keysOnly <;> simp [answerOf]

theorem answerOf_pages (keysOnly : Bool) (pages : List Decoded) :
    answerOf keysOnly (some (pages.flatMap Decoded.records))
      = if keysOnly then .identifiers (pages.flatMap Decoded.ids)
        else .records (pages.flatMap Decoded.records) := by
  have ids : (pages.flatMap Decoded.records).map Record.identifier
      = pages.flatMap Decoded.ids := List.map_flatMap ..
  rw [answerOf, ids]

theorem gives_answer_all {calls : Nat} {requested : Value} {r : Result (Option (List Record))}
    (all : (s.all t calls requested keysOnly).Gives past r made) :
    (s.answer t calls (.all requested keysOnly)).Gives past (answerOf keysOnly <$> r) made := by
  have answered := all.bind_result (g := fun records => .ok (answerOf keysOnly records))
    (f := fun
      | none => pure .unfinished
      | some records => pure (if keysOnly then .identifiers (records.map Record.identifier)
        else .records records)) fun records => by
    cases records with
    | none => exact Session.gives_pure _ _
    | some records => exact Session.gives_pure _ _
  exact answered

theorem Course.paged {calls count : Nat} {r : Result (Option (List Record))}
    (course : Course (s.pageAfter t past plan keysOnly size) size calls 0 count r)
    (allowed : 0 < calls) (positive : 1 ≤ size) :
    s.Paged t plan.scoreFields keysOnly size calls past (pageCalls plan keysOnly size 0 count)
      (answerOf keysOnly <$> r) where
  asks := by
    have made := course.made_pos allowed
    rw [← List.length_pos_iff, length_pageCalls]
    exact made
  windows := inWindows_pageCalls plan keysOnly size count
  bounded total claims := by
    obtain ⟨few, ends⟩ := course.bounded positive total fun j page _ asked fetched =>
      claims j page (receives_pageCalls.2 ⟨by omega, fetched⟩)
    rw [Nat.zero_mul, Nat.sub_zero] at few ends
    rw [length_pageCalls]
    refine ⟨few, fun enough outcome => ?_⟩
    obtain ⟨records, all, none⟩ := map_eq_ok.1 outcome
    rw [answerOf_eq_unfinished.1 none] at all
    exact ends enough all
  unfinished outcome := by
    obtain ⟨records, all, none⟩ := map_eq_ok.1 outcome
    rw [answerOf_eq_unfinished.1 none] at all
    rw [length_pageCalls]
    exact course.made_of_unfinished all
  goesOn finished i page received := by
    have ended : r ≠ .ok none := by
      rintro rfl
      exact finished rfl
    obtain ⟨asked, fetched⟩ := receives_pageCalls.1 received
    have next := course.goes_on ended (Nat.zero_le i) (by omega) fetched
    rw [Nat.zero_add] at next
    rw [length_pageCalls, next]
    simp [hasMore]
  whole answer outcome finished := by
    obtain ⟨records, all, rfl⟩ := map_eq_ok.1 outcome
    cases records with
    | none => exact absurd rfl finished
    | some records =>
      obtain ⟨pages, rfl, each, rfl⟩ := course.whole all
      refine ⟨pages, (length_pageCalls ..).symm, fun i page found => ?_, answerOf_pages ..⟩
      have fetched := each i page found
      rw [Nat.zero_add] at fetched
      exact receives_pageCalls.2 ⟨(List.getElem?_eq_some_iff.1 found).1, fetched⟩
  fails i e received := by
    obtain ⟨made, failed⟩ := receives_pageCalls.1 received
    obtain ⟨count, rfl⟩ := course.fails (Nat.zero_le i) (by omega) failed
    refine ⟨?_, rfl⟩
    rw [length_pageCalls, ← count, Nat.zero_add]
  failed e outcome := by
    cases r with
    | ok records => cases outcome
    | error e' =>
      cases outcome
      obtain ⟨j, last, failed⟩ := course.failed_last rfl
      exact ⟨j, receives_pageCalls.2 ⟨by omega, failed⟩⟩

/-- Whatever is answered, all matches are fetched page by page, or asking fails before the first
call. A fault of the question is never found later. -/
theorem answer_all_paged (s : Search) (t : Transport) (requested : Value) (keysOnly : Bool)
    {calls : Nat} (allowed : 0 < calls) (past : List Call) :
    ∃ r made, (s.answer t calls (.all requested keysOnly)).Gives past r made
      ∧ (∀ e, r = .error e → e.OfQuestion → made = [])
      ∧ ((made = [] ∧ ∃ e, s.Refuses requested keysOnly e ∧ r = .error e)
        ∨ ∃ plan size, s.compiler.compile s.conditions s.options = .ok plan
          ∧ s.pageSize requested = .ok (.int (size : Nat)) ∧ 1 ≤ size
          ∧ s.Paged t plan.scoreFields keysOnly size calls past made r) := by
  rcases s.all_course t requested keysOnly allowed past with
    ⟨e, refused, gives⟩ | ⟨plan, size, count, r, compiled, sized, positive, _, course, gives⟩
  · exact ⟨_, _, gives_answer_all gives, fun _ _ _ => rfl, .inl ⟨rfl, e, refused, rfl⟩⟩
  · have paged := course.paged allowed positive
    refine ⟨_, _, gives_answer_all gives, fun e outcome asked => ?_,
      .inr ⟨plan, size, compiled, sized, positive, paged⟩⟩
    obtain ⟨i, received⟩ := paged.failed e outcome
    obtain ⟨call, _, failed⟩ := received
    exact absurd asked (s.received_failsOnly t plan.scoreFields _ call e failed)

/-- A store that claims three hats and sends two with every page: three calls are enough. -/
theorem answer_all_paged_lavish :
    ∃ made, made.length ≤ 3 ∧ InWindows 1 made
      ∧ (Products.hats.answer Products.lavish 3 (.all (.int 1) true)).Gives []
        (.ok (.identifiers (List.replicate made.length ["1", "2"]).flatten)) made := by
  obtain ⟨r, made, gives, _, ⟨_, e, refused, _⟩ | ⟨plan, size, compiled, sized, _, paged⟩⟩ :=
    answer_all_paged Products.hats Products.lavish (.int 1) true (show 0 < 3 by decide) []
  · cases refused with
    | size failed => cases failed
    | page sized failed =>
      cases sized
      cases failed
  · cases compiled
    obtain rfl : size = 1 := by
      cases sized
      rfl
    have every {i : Nat} {r : Result Decoded}
        (received : Products.hats.Receives Products.lavish [] [] made i r) :
        r = .ok ⟨3, Products.twoHats⟩ := by
      obtain ⟨call, _, rfl⟩ := received
      exact Products.received_lavish _ call
    have claims : ∀ i page,
        Products.hats.Receives Products.lavish [] [] made i (.ok page) → page.total ≤ 3 := by
      intro i page received
      cases every received
      exact Int.le_refl 3
    obtain ⟨few, ends⟩ := paged.bounded 3 claims
    cases r with
    | error e =>
      obtain ⟨i, received⟩ := paged.failed e rfl
      cases every received
    | ok answer =>
      have finished : answer ≠ .unfinished := by
        rintro rfl
        exact ends (by decide) rfl
      obtain ⟨pages, long, each, rfl⟩ := paged.whole answer rfl finished
      have same : pages = List.replicate made.length ⟨3, Products.twoHats⟩ := by
        refine List.eq_replicate_iff.2 ⟨long, fun page member => ?_⟩
        obtain ⟨i, found⟩ := List.mem_iff_getElem?.1 member
        cases every (each i page found)
        rfl
      have ids : pages.flatMap Decoded.ids = (List.replicate made.length ["1", "2"]).flatten := by
        rw [same, List.flatMap_replicate]
        rfl
      rw [if_pos rfl, ids] at gives
      exact ⟨made, few, paged.windows, gives⟩

end Search

end TypedQuery
