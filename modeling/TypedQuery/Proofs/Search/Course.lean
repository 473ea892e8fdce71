import TypedQuery.Proofs.Value.Writable
import TypedQuery.Search.Session

/-! # The course of a session

What a computation gives and which calls it makes, told step by step. A transport answers in the
light of the calls before, so these are carried along; notices are left aside. -/

namespace TypedQuery
set_option autoImplicit false

/-! ## Computations -/

namespace Session

variable {α β : Type} {m : Session α} {f : α → Session β} {past calls more : List Call}

/-- After the calls made so far, the computation gives this and makes these calls. -/
def Gives (m : Session α) (past : List Call) (r : Result α) (calls : List Call) : Prop :=
  ∀ trace : Trace, trace.calls = past →
    ∃ trace', m.run.run trace = (r, trace') ∧ trace'.calls = past ++ calls

theorem calls_noticed (trace : Trace) (notices : List Notice) :
    Trace.calls (trace ++ notices.map .noticed) = trace.calls := by
  have silent : Trace.calls (notices.map Event.noticed) = [] := by
    simp [Trace.calls, List.filterMap_map]
  rw [Trace.calls, List.filterMap_append, ← Trace.calls, ← Trace.calls, silent, List.append_nil]

theorem calls_called (trace : Trace) (call : Call) :
    Trace.calls (trace ++ [.called call]) = trace.calls ++ [call] := by
  rw [Trace.calls, List.filterMap_append]
  rfl

theorem run_bind (trace : Trace) : (m >>= f).run.run trace =
    match m.run.run trace with
    | (.ok a, between) => (f a).run.run between
    | (.error e, after) => (.error e, after) := by
  rw [ExceptT.run_bind, StateT.run_bind]
  cases m.run.run trace with
  | mk r between =>
    cases r with
    | ok a => rfl
    | error e => rfl

theorem gives_pure (a : α) (past : List Call) : Gives (pure a) past (.ok a) [] := by
  intro trace before
  exact ⟨trace, rfl, by rw [before, List.append_nil]⟩

theorem gives_lift (r : Result α) (past : List Call) : (lift r).Gives past r [] := by
  intro trace before
  refine ⟨trace, ?_, by rw [before, List.append_nil]⟩
  cases r with
  | ok a => rfl
  | error e => rfl

theorem gives_report (notices : List Notice) (past : List Call) :
    (report notices).Gives past (.ok ()) [] := by
  intro trace before
  exact ⟨_, rfl, by rw [calls_noticed, before, List.append_nil]⟩

theorem Gives.bind {a : α} {r : Result β} (first : m.Gives past (.ok a) calls)
    (next : (f a).Gives (past ++ calls) r more) : (m >>= f).Gives past r (calls ++ more) := by
  intro trace before
  obtain ⟨between, ran, made⟩ := first trace before
  obtain ⟨after, finished, all⟩ := next between made
  refine ⟨after, ?_, by rw [all, List.append_assoc]⟩
  rw [run_bind, ran]
  exact finished

theorem Gives.bind_error {e : Error} (failed : m.Gives past (.error e) calls) :
    (m >>= f).Gives past (.error e) calls := by
  intro trace before
  obtain ⟨after, ran, made⟩ := failed trace before
  exact ⟨after, by rw [run_bind, ran], made⟩

/-- A step without calls before the rest. -/
theorem Gives.before {a : α} {r : Result β} (first : m.Gives past (.ok a) [])
    (next : (f a).Gives past r calls) : (m >>= f).Gives past r calls := by
  have same : past = past ++ [] := (List.append_nil past).symm
  rw [same] at next
  exact first.bind next

/-- A step without calls behind the rest. -/
theorem Gives.behind {a : α} {r : Result β} (first : m.Gives past (.ok a) calls)
    (next : (f a).Gives (past ++ calls) r []) : (m >>= f).Gives past r calls := by
  have both := first.bind next
  rwa [List.append_nil] at both

theorem Gives.bind_result {r : Result α} {g : α → Result β} (first : m.Gives past r calls)
    (next : ∀ a, (f a).Gives (past ++ calls) (g a) []) : (m >>= f).Gives past (r >>= g) calls := by
  cases r with
  | error e => exact first.bind_error
  | ok a => exact first.behind (next a)

end Session

/-! ## Transports -/

/-- The call of a plan. -/
def Plan.call (p : Plan) : Call := ⟨p.indexName, p.query, p.options⟩

variable {t : Transport} {past : List Call}

open Session

/-- The notice of a call on an index whose name can be written. -/
theorem Transport.commandNotices_eq_ok (t : Transport) {call : Call}
    (named : call.indexName.isWritable = true) : ∃ notices, t.commandNotices call = .ok notices := by
  obtain ⟨index, shown⟩ := Option.isSome_iff_exists.1 named
  unfold commandNotices
  rw [Value.display_eq_ok.2 shown]
  cases t.spellsOut with
  | true => exact ⟨_, rfl⟩
  | false => exact ⟨_, rfl⟩

theorem Transport.gives_send (t : Transport) (past : List Call) {call : Call}
    (named : call.indexName.isWritable = true) :
    (t.send call).Gives past ((t.respond past call).mapError .store) [call] := by
  obtain ⟨notices, worded⟩ := t.commandNotices_eq_ok named
  unfold Transport.send
  rw [worded]
  refine (gives_lift (.ok notices) past).before ((gives_report notices past).before ?_)
  intro trace before
  refine ⟨trace ++ [.called call], ?_, by rw [calls_called, before]⟩
  -- the calls so far are looked up, and the new one is recorded
  rw [run_bind]
  change (_ : Session Value).run.run trace = _
  rw [run_bind]
  change (_ : Session Value).run.run (trace ++ [.called call]) = _
  rw [before]
  cases t.respond past call with
  | ok reply => rfl
  | error text => rfl

/-! ## Searches -/

namespace Search

variable {s : Search} {node : Condition} {o : SearchOptions}

/-- What a plan gives: the answer of the transport, decoded. -/
def fetched (s : Search) (t : Transport) (past : List Call) (plan : Plan) : Result Decoded := do
  let reply ← (t.respond past plan.call).mapError .store
  s.decoder.decode plan.scoreFields reply

theorem gives_execute (t : Transport) (past : List Call) {plan : Plan}
    (named : plan.indexName.isWritable = true) :
    (execute t plan).Gives past ((t.respond past plan.call).mapError .store) [plan.call] := by
  obtain ⟨index, shown⟩ := Option.isSome_iff_exists.1 named
  unfold execute
  rw [Value.display_eq_ok.2 shown]
  exact (gives_lift (.ok index) past).before ((gives_report _ past).before (t.gives_send past named))

theorem gives_executePlan (s : Search) (t : Transport) (past : List Call) {plan : Plan}
    (named : plan.indexName.isWritable = true) :
    (s.executePlan t plan).Gives past (s.fetched t past plan) [plan.call] := by
  refine (gives_execute t past named).bind_result fun reply => ?_
  cases s.decoder.decode plan.scoreFields reply with
  | error e => exact (gives_lift (.error e) _).bind_error
  | ok decoded =>
    exact (gives_lift (.ok decoded) _).before ((gives_report _ _).before (gives_pure decoded _))

/-- The index of a compiled plan is that of the schema, whose name can be written. -/
theorem isWritable_index {c : Compiler} {plan : Plan} (compiled : c.compile node o = .ok plan) :
    plan.indexName.isWritable = true := by
  obtain ⟨_, _, compiled⟩ := bind_eq_ok.1 compiled
  obtain ⟨_, _, compiled⟩ := bind_eq_ok.1 compiled
  obtain ⟨_, _, compiled⟩ := bind_eq_ok.1 compiled
  obtain ⟨_, _, compiled⟩ := bind_eq_ok.1 compiled
  cases compiled
  exact Option.isSome_iff_exists.2 ⟨_, c.schema.indexName.written⟩

theorem gives_run {plan : Plan} (t : Transport) (past : List Call)
    (compiled : s.compiler.compile (s.orConditions node) o = .ok plan) :
    (s.run t node (some o)).Gives past (s.fetched t past plan) [plan.call] := by
  have planned : (s.plan (s.orConditions node) o).Gives past (.ok plan) [] := by
    rw [← compiled]
    exact (gives_report _ past).before (gives_lift _ past)
  exact planned.before (s.gives_executePlan t past (isWritable_index compiled))

end Search

end TypedQuery
