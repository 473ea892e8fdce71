import TypedQuery.Proofs.Query.NearestPlan
import TypedQuery.Proofs.Reply.Framing
import TypedQuery.Proofs.Search.Course
import TypedQuery.Search.Accessors

/-! # All matches, page by page

Every page is compiled anew, and it differs from the plan of the search in its window and, for
identifiers, in the columns that are returned. Pages are fetched until one ends at the number of
all matches; put together they are the hits that match, each of them once. -/

namespace TypedQuery
set_option autoImplicit false

/-! ## Plans of pages -/

/-- The columns that a page returns. -/
def Plan.columns (p : Plan) (keysOnly : Bool) : List Value := if keysOnly then [] else p.returnFields

/-- The same question for one page. -/
def Plan.page (p : Plan) (keysOnly : Bool) (offset size : Nat) : Plan :=
  { p with returnFields := p.columns keysOnly, limit := some ⟨.int offset, .int size⟩ }

namespace Compiler

variable {c : Compiler} {node : Condition} {o : SearchOptions} {plan : Plan}

theorem windowOf_nat {offset size : Nat} (small : size ≤ largestWindow)
    (ho : o.offset = .int offset) (hc : o.count = .int size) :
    windowOf o = .ok (some ⟨.int offset, .int size⟩) := by
  rw [windowOf, hc, ho]
  dsimp only
  rw [checkWindow_nat small]
  rfl

/-- If a search has a plan, then so has each of its pages. -/
theorem compile_page (compiled : c.compile node o = .ok plan) (keysOnly : Bool) (offset : Nat)
    {size : Nat} (small : size ≤ largestWindow) :
    c.compile node (Search.keysOnlyIf keysOnly { o with offset := .int offset, count := .int size })
      = .ok (plan.page keysOnly offset size) := by
  obtain ⟨q, asked, compiled⟩ := bind_eq_ok.1 compiled
  obtain ⟨sort, sorted, compiled⟩ := bind_eq_ok.1 compiled
  obtain ⟨columns, returned, compiled⟩ := bind_eq_ok.1 compiled
  obtain ⟨limit, _, compiled⟩ := bind_eq_ok.1 compiled
  cases compiled
  let paged := Search.keysOnlyIf keysOnly { o with offset := .int offset, count := .int size }
  have again : c.sortClause paged q.scoreFields = .ok sort := by
    rw [← sorted]
    cases keysOnly <;> rfl
  have given : c.returnColumns paged q.scoreFields = .ok (if keysOnly then [] else columns) := by
    cases keysOnly with
    | true => rfl
    | false => exact returned
  have window : windowOf paged = .ok (some ⟨.int offset, .int size⟩) := by
    cases keysOnly with
    | true => exact windowOf_nat small rfl rfl
    | false => exact windowOf_nat small rfl rfl
  unfold compile
  rw [asked, ok_bind, again, ok_bind, given, ok_bind, window]
  rfl

end Compiler

/-! ## Transports with hits -/

/-- The call asks for these columns of the hits in a window. -/
def Call.Asks (call : Call) (columns : List Value) (offset size : Nat) : Prop :=
  Value.lookup? call.options "RETURN" = some (.list columns)
    ∧ Value.lookup? call.options "LIMIT"
      = some (.map [(.text "from", .int offset), (.text "size", .int size)])

theorem asks_page (plan : Plan) (keysOnly : Bool) (offset size : Nat) :
    (plan.page keysOnly offset size).call.Asks (plan.columns keysOnly) offset size := by
  have entries : (plan.page keysOnly offset size).call.options = plan.paramsEntry
      ++ [(.text "RETURN", .list (plan.columns keysOnly))] ++ plan.sortEntry
      ++ [(.text "LIMIT", .map [(.text "from", .int offset), (.text "size", .int size)])]
      ++ [(.text "DIALECT", plan.dialect)] := rfl
  rw [Call.Asks, entries, Plan.paramsEntry, Plan.sortEntry]
  cases plan.params.isEmpty with
  | true => cases plan.sort <;> exact ⟨rfl, rfl⟩
  | false => cases plan.sort <;> exact ⟨rfl, rfl⟩

/-- A hit as it is sent: with its columns or, where keys are enough, without any. -/
def SentHit.Shows (keysOnly : Bool) (h sent : SentHit) : Prop :=
  sent.identifier = h.identifier
    ∧ (sent.columns = h.columns ∨ keysOnly = true ∧ sent.columns = [])

/-- Whatever was asked before, a call for these columns is answered with the number of all hits and
the hits in its window. -/
def Transport.Serves (t : Transport) (s : Schema) (columns : List Value) (keysOnly : Bool)
    (hits : List SentHit) : Prop :=
  ∀ past call offset size, Call.Asks call columns offset size →
    ∃ reply count sent, t.respond past call = .ok reply
      ∧ reply.items? = some (count :: sent.flatMap (SentHit.items s))
      ∧ Decoder.countOf count = .ok hits.length
      ∧ List.Forall₂ (SentHit.Shows keysOnly) ((hits.drop offset).take size) sent

/-! ## A store of products -/

namespace Products

def hats : Search := { schema, settings := {}, node := some isHat }

def sentHat (identifier : String) : SentHit where
  identifier := identifier
  keyInBytes := false
  array := some (.list [.text "kind", .text "hat"])
  flat := by simp [Value.items?]

def bareHit (h : SentHit) : SentHit := { h with array := none, flat := by simp }

/-- The store sends keys alone when no columns are asked for. -/
def store (hits : List SentHit) : Transport where
  respond _ call :=
    match Value.lookup? call.options "LIMIT" with
    | some (.map [(_, .int offset), (_, .int size)]) =>
      let page := (hits.drop offset.toNat).take size.toNat
      let sent :=
        match Value.lookup? call.options "RETURN" with
        | some (.list []) => page.map bareHit
        | _ => page
      .ok (.list (.int hits.length :: sent.flatMap (SentHit.items schema)))
    | _ => .error "no window"
  spellsOut := false

theorem store_serves {hits : List SentHit} (few : hits.length < 2 ^ 63) {columns : List Value}
    {keysOnly : Bool} (asked : columns = [] ↔ keysOnly = true) :
    (store hits).Serves schema columns keysOnly hits := by
  intro past call offset size ⟨returned, window⟩
  have counted := Decoder.countOf_int few
  cases columns with
  | nil =>
    let sent := ((hits.drop offset).take size).map bareHit
    refine ⟨.list (.int hits.length :: sent.flatMap (SentHit.items schema)), _, sent, ?_, rfl,
      counted, ?_⟩
    · simp only [store, window, returned]
      rfl
    · rw [List.forall₂_map_right_iff, List.forall₂_same]
      intro h _
      exact ⟨rfl, .inr ⟨asked.1 rfl, rfl⟩⟩
  | cons column rest =>
    let sent := (hits.drop offset).take size
    refine ⟨.list (.int hits.length :: sent.flatMap (SentHit.items schema)), _, sent, ?_, rfl,
      counted, ?_⟩
    · simp only [store, window, returned]
      rfl
    · rw [List.forall₂_same]
      intro h _
      exact ⟨rfl, .inl rfl⟩

end Products

/-! ## One page -/

namespace Search

variable {s : Search} {t : Transport} {plan : Plan} {keysOnly : Bool} {hits : List SentHit}
variable {scoreFields : List Value}

/-- The record of a hit; where keys are enough, its identifier is. -/
def Reads (s : Search) (scoreFields : List Value) (keysOnly : Bool) (h : SentHit) (r : Record) :
    Prop :=
  r.identifier = h.identifier ∧ (keysOnly = false → s.decoder.sentRecord scoreFields h = .ok r)

theorem reads_shown {h sent : SentHit} (shown : h.Shows keysOnly sent)
    (decodes : ∃ r, s.decoder.sentRecord scoreFields h = .ok r) :
    ∃ r, s.decoder.sentRecord scoreFields sent = .ok r ∧ s.Reads scoreFields keysOnly h r := by
  obtain ⟨same, full | ⟨keys, bare⟩⟩ := shown
  · obtain ⟨r, decoded⟩ := decodes
    have alike : sent.Alike h := ⟨same, full⟩
    exact ⟨r, (Decoder.sentRecord_alike alike).trans decoded,
      (Decoder.sentRecord_keeps decoded).1, fun _ => decoded⟩
  · refine ⟨_, Decoder.sentRecord_bare bare, same, fun records => ?_⟩
    rw [keys] at records
    cases records

theorem reads_page {page sent : List SentHit}
    (shown : List.Forall₂ (SentHit.Shows keysOnly) page sent)
    (decodes : ∀ h ∈ page, ∃ r, s.decoder.sentRecord scoreFields h = .ok r) :
    ∃ records, List.Forall₂ (fun h r => s.decoder.sentRecord scoreFields h = .ok r) sent records
      ∧ List.Forall₂ (s.Reads scoreFields keysOnly) page records := by
  induction shown with
  | nil => exact ⟨[], .nil, .nil⟩
  | cons first _ ih =>
    obtain ⟨h, others⟩ := List.forall_mem_cons.1 decodes
    obtain ⟨r, decoded, reads⟩ := reads_shown first h
    obtain ⟨records, all, allRead⟩ := ih others
    exact ⟨r :: records, .cons decoded all, .cons reads allRead⟩

theorem fetched_page (serves : t.Serves s.schema (plan.columns keysOnly) keysOnly hits)
    (decodes : ∀ h ∈ hits, ∃ r, s.decoder.sentRecord plan.scoreFields h = .ok r)
    (past : List Call) (offset size : Nat) :
    ∃ records, s.fetched t past (plan.page keysOnly offset size) = .ok ⟨hits.length, records⟩
      ∧ List.Forall₂ (s.Reads plan.scoreFields keysOnly) ((hits.drop offset).take size) records := by
  obtain ⟨reply, count, sent, answered, framed, counted, shown⟩ :=
    serves past _ offset size (asks_page plan keysOnly offset size)
  have within : ∀ h ∈ (hits.drop offset).take size,
      ∃ r, s.decoder.sentRecord plan.scoreFields h = .ok r :=
    fun h hh => decodes h (List.mem_of_mem_drop (List.mem_of_mem_take hh))
  obtain ⟨records, decoded, reads⟩ := reads_page shown within
  refine ⟨records, ?_, reads⟩
  rw [fetched, answered, mapError_ok, ok_bind]
  exact (Decoder.decode_eq_ok (d := s.decoder) framed counted).2 ⟨rfl, decoded⟩

theorem orConditions_conditions (s : Search) : s.orConditions s.conditions = s.conditions := by
  unfold orConditions
  split <;> rfl

theorem gives_page (compiled : s.compiler.compile s.conditions s.options = .ok plan)
    (t : Transport) (past : List Call) (keysOnly : Bool) (offset : Nat) {size : Nat}
    (small : size ≤ largestWindow) :
    (s.page t (.int offset) (.int size) keysOnly).Gives past
      (s.fetched t past (plan.page keysOnly offset size)) [(plan.page keysOnly offset size).call] := by
  have paged := Compiler.compile_page compiled keysOnly offset small
  rw [← orConditions_conditions] at paged
  exact gives_run t past paged

/-! ## The pages of a list -/

/-- How many pages hold so many hits; there is always one. -/
def pageCount (hits size : Nat) : Nat := max 1 ((hits + size - 1) / size)

theorem pageCount_last {n size : Nat} (positive : 1 ≤ size) (last : n ≤ size) :
    pageCount n size = 1 := by
  have one : (n + size - 1) / size < 2 := Nat.div_lt_of_lt_mul (by omega)
  rw [pageCount]
  omega

theorem pageCount_more {n size : Nat} (positive : 1 ≤ size) (more : size < n) :
    pageCount n size = pageCount (n - size) size + 1 := by
  have split : n + size - 1 = (n - size + size - 1) + size := by omega
  have first : (n + size - 1) / size = (n - size + size - 1) / size + 1 := by
    rw [split, Nat.add_div_right _ positive]
  have second : 1 ≤ (n - size + size - 1) / size := Nat.div_pos (by omega) positive
  rw [pageCount, pageCount, first]
  omega

theorem hasMore_iff {records : List Record} {offset size n : Nat}
    (full : records.length = min size (n - offset)) :
    hasMore ⟨n, records⟩ size (offset + size) = true ↔ offset + size < n := by
  simp only [hasMore, Bool.and_eq_true, decide_eq_true_eq, full]
  omega

/-! ## All pages -/

/-- The calls for so many pages of a size, one behind the other. -/
def pageCalls (plan : Plan) (keysOnly : Bool) (size offset count : Nat) : List Call :=
  (List.range count).map fun i => (plan.page keysOnly (offset + i * size) size).call

theorem pageCalls_succ (plan : Plan) (keysOnly : Bool) (size offset count : Nat) :
    pageCalls plan keysOnly size offset (count + 1)
      = (plan.page keysOnly offset size).call
        :: pageCalls plan keysOnly size (offset + size) count := by
  have shifted : ∀ i, offset + (i + 1) * size = offset + size + i * size := by
    intro i
    rw [Nat.succ_mul]
    omega
  simp [pageCalls, List.range_succ_eq_map, Function.comp_def, shifted]

/-- From an offset on, the pages hold the hits behind it. -/
theorem gives_pagesFrom (compiled : s.compiler.compile s.conditions s.options = .ok plan)
    (serves : t.Serves s.schema (plan.columns keysOnly) keysOnly hits)
    (decodes : ∀ h ∈ hits, ∃ r, s.decoder.sentRecord plan.scoreFields h = .ok r)
    {size : Nat} (positive : 1 ≤ size) (small : size ≤ largestWindow) (calls offset : Nat)
    (past : List Call) (enough : pageCount (hits.length - offset) size ≤ calls) :
    ∃ records, List.Forall₂ (s.Reads plan.scoreFields keysOnly) (hits.drop offset) records
      ∧ (s.pagesFrom t size keysOnly calls offset).Gives past (.ok (some records))
        (pageCalls plan keysOnly size offset (pageCount (hits.length - offset) size)) := by
  -- on the calls that are left; what was fetched before the offset is with the caller already
  induction calls generalizing offset past with
  | zero =>
    have some : 1 ≤ pageCount (hits.length - offset) size := Nat.le_max_left ..
    omega
  | succ calls ih =>
    obtain ⟨here, fetched, reads⟩ := fetched_page serves decodes past offset size
    have page := gives_page compiled t past keysOnly offset small
    rw [fetched] at page
    have full : here.length = min size (hits.length - offset) := by
      rw [← reads.length_eq, List.length_take, List.length_drop]
    by_cases more : offset + size < hits.length
    · have count := pageCount_more (n := hits.length - offset) positive (by omega)
      have rest : hits.length - offset - size = hits.length - (offset + size) := by omega
      rw [rest] at count
      obtain ⟨behind, others, gives⟩ :=
        ih (offset + size) (past ++ [(plan.page keysOnly offset size).call]) (by omega)
      refine ⟨here ++ behind, ?_, ?_⟩
      · rw [← List.take_append_drop size (hits.drop offset), List.drop_drop]
        exact List.rel_append reads others
      · rw [count, pageCalls_succ]
        refine page.bind ?_
        dsimp only
        rw [if_pos ((hasMore_iff full).2 more)]
        exact gives.behind (Session.gives_pure _ _)
    · -- a last page may be full, and then the number of all hits ends the loop
      have count := pageCount_last (n := hits.length - offset) positive (by omega)
      have rest : (hits.drop offset).take size = hits.drop offset :=
        List.take_of_length_le (by rw [List.length_drop]; omega)
      rw [rest] at reads
      refine ⟨here, reads, ?_⟩
      rw [count, pageCalls_succ]
      refine page.bind ?_
      dsimp only
      rw [if_neg fun claimed => more ((hasMore_iff full).1 claimed)]
      exact Session.gives_pure _ _

theorem pageSize_given {requested : Value} {size : Nat} (positive : 1 ≤ size)
    (given : requested = .int size ∨ requested = .null ∧ s.settings.defaultPageSize = .int size) :
    s.pageSize requested = .ok (.int size) := by
  have enough : Value.lessThan (.int size) (.int 1) = .ok false := by
    rw [Value.lessThan_int, Except.ok.injEq, decide_eq_false_iff_not]
    omega
  have chosen : (if requested.truthy then requested else s.settings.defaultPageSize) = .int size := by
    rcases given with rfl | ⟨rfl, default⟩
    · rw [if_pos]
      simp [Value.truthy]
      omega
    · exact default
  unfold pageSize
  dsimp only
  rw [chosen, enough]
  rfl

/-- All matches are the hits of the store, each of them once and in their order, fetched by exactly
the calls for the pages that hold them. -/
theorem answer_all {records : List Record}
    (compiled : s.compiler.compile s.conditions s.options = .ok plan)
    (serves : t.Serves s.schema (plan.columns keysOnly) keysOnly hits)
    (decodes : List.Forall₂ (fun h r => s.decoder.sentRecord plan.scoreFields h = .ok r) hits records)
    {requested : Value} {size : Nat} (positive : 1 ≤ size) (small : size ≤ largestWindow)
    (given : requested = .int size ∨ requested = .null ∧ s.settings.defaultPageSize = .int size)
    {calls : Nat} (enough : pageCount hits.length size ≤ calls) (past : List Call) :
    (s.answer t calls (.all requested keysOnly)).Gives past
      (.ok (if keysOnly then .identifiers (hits.map SentHit.identifier) else .records records))
      (pageCalls plan keysOnly size 0 (pageCount hits.length size)) := by
  have each : ∀ h ∈ hits, ∃ r, s.decoder.sentRecord plan.scoreFields h = .ok r := by
    intro h hh
    obtain ⟨r, _, decoded⟩ := exists_right_of_mem decodes hh
    exact ⟨r, decoded⟩
  obtain ⟨found, reads, gives⟩ :=
    gives_pagesFrom compiled serves each positive small calls 0 past enough
  have all : (s.all t calls requested keysOnly).Gives past (.ok (some found))
      (pageCalls plan keysOnly size 0 (pageCount hits.length size)) := by
    have sized := Session.gives_lift (s.pageSize requested) past
    rw [pageSize_given positive given] at sized
    unfold Search.all
    rw [pageSize_given positive given]
    exact sized.before gives
  have answer : (if keysOnly then Answer.identifiers (found.map Record.identifier) else .records found)
      = if keysOnly then .identifiers (hits.map SentHit.identifier) else .records records := by
    cases keysOnly with
    | true =>
      have same := Decoder.identifiers_eq (reads.imp fun h r one => one.1)
      rw [same]
      rfl
    | false =>
      have again := mapM_eq_ok.2 (reads.imp fun h r one => one.2 rfl)
      have same : found = records := Except.ok.inj (again.symm.trans (mapM_eq_ok.2 decodes))
      rw [same]
      rfl
  rw [← answer]
  exact all.behind (Session.gives_pure _ _)

/-- Three hats: their records in two pages, their identifiers in one. -/
theorem answer_all_hats :
    ∃ plan, Products.hats.compiler.compile Products.hats.conditions Products.hats.options = .ok plan
      ∧ (Products.hats.answer (Products.store (["1", "2", "3"].map Products.sentHat)) 2
          (.all (.int 2) false)).Gives []
          (.ok (.records (["1", "2", "3"].map fun i =>
            ⟨i, "Product:" ++ i, [("kind", .text "hat")], []⟩)))
          [(plan.page false 0 2).call, (plan.page false 2 2).call]
      ∧ (Products.hats.answer (Products.store (["1", "2", "3"].map Products.sentHat)) 1
          (.all .null true)).Gives [] (.ok (.identifiers ["1", "2", "3"]))
          [(plan.page true 0 10).call] := by
  have planned : ∃ plan, Products.hats.compiler.compile Products.hats.conditions
      Products.hats.options = .ok plan ∧ plan.scoreFields = []
      ∧ plan.returnFields = [.text "kind", .text "image"] := ⟨_, rfl, rfl, rfl⟩
  obtain ⟨plan, compiled, scores, returned⟩ := planned
  have decodes : List.Forall₂ (fun h r => Products.hats.decoder.sentRecord plan.scoreFields h = .ok r)
      (["1", "2", "3"].map Products.sentHat)
      (["1", "2", "3"].map fun i => ⟨i, "Product:" ++ i, [("kind", .text "hat")], []⟩) := by
    rw [scores]
    exact .cons rfl (.cons rfl (.cons rfl .nil))
  have serves (keysOnly : Bool) : (Products.store (["1", "2", "3"].map Products.sentHat)).Serves
      Products.hats.schema (plan.columns keysOnly) keysOnly (["1", "2", "3"].map Products.sentHat) := by
    refine Products.store_serves (by decide) ?_
    cases keysOnly with
    | true => exact ⟨fun _ => rfl, fun _ => rfl⟩
    | false => simp [Plan.columns, returned]
  refine ⟨plan, compiled, ?_, ?_⟩
  · exact answer_all compiled (serves false) decodes (by decide) (by decide) (.inl rfl) (by decide) []
  · exact answer_all compiled (serves true) decodes (by decide) (by decide) (.inr ⟨rfl, rfl⟩)
      (by decide) []

end Search

end TypedQuery
