import Probe.Http.Script
import Probe.Proofs.Run.Captures
import Probe.Run.Summary

/-!
# Rounds

The same cases may be run again, each round with its own transport and variables. The first round leaves
every case final. A later one begins with no statuses recorded, finds the same dependencies passed as
the first, and leaves every case alone; but it calls the hooks of the executed cases anew. Main
statements:

* `runFrom_again`: a run of cases as a run left them.
* `rerun_inert`: what a further round comes to.
* `hook_law`: when the hooks are called, over all rounds.
-/

namespace Probe

/-- The same call, with other variables. -/
def HookCall.withStore (store : Store) (call : HookCall) : HookCall := { call with store }

/-- The same event, where a hook finds other variables. -/
def Event.withStore (store : Store) : Event → Event
  | completed call => completed (call.withStore store)
  | reported r => reported r

/-- What a round of runs is given: a transport with its state, and variables. -/
structure Round : Type 1 where
  σ : Type
  transport : Transport σ
  peer : σ
  store : Store

/-- Runs cases in a round; what is sent is logged. -/
def Round.run (r : Round) (base : String) (cases : List Case) : Outcome (r.σ × List Request) :=
  runCases r.transport.recording base cases r.store (r.peer, [])

/-- The cases after rounds, one after the other. -/
def casesAfter (base : String) (cases : List Case) : List Round → List Case
  | [] => cases
  | r :: rest => casesAfter base (r.run base cases).cases rest

/-- The calls of hooks in all rounds, in order. -/
def hookCalls (base : String) (cases : List Case) : List Round → List HookCall
  | [] => []
  | r :: rest => (r.run base cases).calls ++ hookCalls base (r.run base cases).cases rest

/-! ## Running cases again -/

theorem Event.reports_withStore (store : Store) (events : List Event) :
    (events.map (Event.withStore store)).filterMap Event.report? = events.filterMap Event.report? := by
  have h := Event.filterMap_map_of_view Event.report? (Event.withStore store) id
    (by rintro (call | r) <;> rfl) events
  rwa [List.map_id] at h

theorem Event.calls_withStore (store : Store) (events : List Event) :
    (events.map (Event.withStore store)).filterMap Event.call? =
      (events.filterMap Event.call?).map (HookCall.withStore store) :=
  Event.filterMap_map_of_view Event.call? (Event.withStore store) (HookCall.withStore store)
    (by rintro (call | r) <;> rfl) events

section

variable {σ τ : Type} (transport : Transport σ) (transport' : Transport τ) (base : String)

/-- A turn of a case as its turn left it comes to the same, but for the variables that its hook finds. -/
theorem turn_again (statuses : Statuses) (c : Case) (store store' : Store) (s : σ) (s' : τ) {c' : Case}
    (h : (turn transport base statuses c store s).cases = [c']) :
    turn transport' base statuses c' store' s' =
      ⟨[c'], (turn transport base statuses c store s).events.map (Event.withStore store'), store',
        s'⟩ := by
  obtain ⟨own, hown, hends, -⟩ := exists_turn transport base statuses c store s
  obtain rfl : own = c' := List.singleton_inj.1 (hown.symm.trans h)
  -- The dependencies are the same, and so is what is recorded of them.
  have hblocker : own.blocker? statuses = c.blocker? statuses := by
    rw [hends.eq]
    rfl
  cases hb : c.blocker? statuses with
  | some d =>
      rw [turn_of_blocker transport base statuses c store s d hb] at h ⊢
      rw [turn_of_blocker transport' base statuses own store' s' d (hblocker.trans hb),
        own.skip_of_isFinal d hends.isFinal, List.singleton_inj.1 h]
      rfl
  | none =>
      rw [turn_of_free transport base statuses c store s hb] at h ⊢
      rw [turn_of_free transport' base statuses own store' s' (hblocker.trans hb),
        own.execute_of_isFinal transport' base store' s' hends.isFinal]
      simp only [List.singleton_inj.1 h, Case.hookCall?]
      cases own.hook <;> rfl

/-- A run of cases as a run left them comes to the same, but for the variables that the hooks find: it
changes neither cases nor variables and does not use its transport. -/
theorem runFrom_again (statuses : Statuses) (cases : List Case) (store store' : Store) (s : σ) (s' : τ) :
    let o := runFrom transport base statuses cases store s
    runFrom transport' base statuses o.cases store' s' =
      ⟨o.cases, o.events.map (Event.withStore store'), store', s'⟩ := by
  induction cases generalizing statuses store s with
  | nil => rfl
  | cons c rest ih =>
      obtain ⟨c', hturn, -⟩ := exists_turn transport base statuses c store s
      have hagain := turn_again transport transport' base statuses c store store' s s' hturn
      -- Both turns leave the same case, so that the same status is recorded for those after it.
      simp only at ih
      simp only [runFrom, Outcome.append, hturn, List.singleton_append, hagain, ih, List.map_append]

end

/-! ## Further rounds -/

/-- What a round makes of cases as an earlier round left them. -/
theorem Round.run_again (base : String) (cases : List Case) (first again : Round) :
    again.run base (first.run base cases).cases =
      ⟨(first.run base cases).cases, (first.run base cases).events.map (Event.withStore again.store),
        again.store, (again.peer, [])⟩ :=
  runFrom_again first.transport.recording again.transport.recording base .empty cases first.store
    again.store (first.peer, []) (again.peer, [])

theorem casesAfter_run (base : String) (cases : List Case) (first : Round) (later : List Round) :
    casesAfter base (first.run base cases).cases later = (first.run base cases).cases := by
  induction later with
  | nil => rfl
  | cons r rest ih => rw [casesAfter, Round.run_again, ih]

/-- The first round leaves every case final and reports it so, whatever state it was in. A further round
sends nothing and leaves its transport, its variables and all cases as they are. It reports what the
first round reported, and comes to the same summary. -/
theorem rerun_inert (base : String) (cases : List Case) (first : Round) (between : List Round)
    (again : Round) :
    let o := first.run base cases
    let found := casesAfter base o.cases between
    let o' := again.run base found
    List.Forall₂ Case.EndsAs cases o.cases ∧ o.reports = o.cases.map Case.report ∧
      o'.peer = (again.peer, []) ∧ o'.store = again.store ∧ o'.cases = found ∧ found = o.cases ∧
      o'.reports = o.reports ∧ o'.summary = o.summary := by
  intro o found o'
  have hfound : found = o.cases := casesAfter_run base cases first between
  have hagain : o' =
      ⟨o.cases, o.events.map (Event.withStore again.store), again.store, (again.peer, [])⟩ := by
    rw [← Round.run_again base cases first again, ← hfound]
  have hreports : o'.reports = o.reports := by
    rw [hagain]
    exact Event.reports_withStore again.store o.events
  have hends : List.Forall₂ Case.EndsAs cases o.cases :=
    forall₂_runFrom first.transport.recording base .empty cases first.store (first.peer, [])
  have hreported : o.reports = o.cases.map Case.report :=
    reports_runFrom first.transport.recording base .empty cases first.store (first.peer, [])
  refine ⟨hends, hreported, ?_, ?_, ?_, hfound, hreports, ?_⟩
  · rw [hagain]
  · rw [hagain]
  · rw [hagain, hfound]
  · rw [Outcome.summary, Outcome.summary, hreports]

/-! ## Hooks -/

section

variable {σ : Type} (transport : Transport σ) (base : String)

/-- The turn of a waiting case that is executed ends with a verdict, and then calls the hook of the case
with its report and the variables as the turn leaves them. -/
theorem calls_turnAfter_of_executed (before : List Case) (c : Case) (store : Store) (s : σ) {c' : Case}
    (hc : ExecutedAfter transport base before c store s)
    (hown : (turnAfter transport base before c store s).cases = [c']) :
    c'.status.IsVerdict ∧
      (turnAfter transport base before c store s).calls =
        (c'.hookCall? (turnAfter transport base before c store s).store).toList := by
  obtain ⟨hw, hb⟩ := hc
  rw [turnAfter, turn_of_free transport base _ c _ _ hb] at hown ⊢
  obtain rfl := List.singleton_inj.1 hown
  refine ⟨c.isVerdict_execute transport base _ _ hw, ?_⟩
  simp only [Outcome.calls, List.filterMap_append]
  cases (c.execute transport base _ _).1.hookCall? _ <;> rfl

/-- The turn of a waiting case that is not executed skips the case and calls no hook. -/
theorem calls_turnAfter_of_not_executed (before : List Case) (c : Case) (store : Store) (s : σ)
    {c' : Case} (hw : c.status = .waiting) (hc : ¬ ExecutedAfter transport base before c store s)
    (hown : (turnAfter transport base before c store s).cases = [c']) :
    c'.status = .skipped ∧ (turnAfter transport base before c store s).calls = [] := by
  cases hb : c.blocker? (record .empty (runCases transport base before store s).cases) with
  | none => exact absurd ⟨hw, hb⟩ hc
  | some d =>
      rw [turnAfter, turn_of_blocker transport base _ c _ _ d hb] at hown ⊢
      obtain rfl := List.singleton_inj.1 hown
      refine ⟨?_, rfl⟩
      rw [c.skip_of_waiting d hw]
      rfl

end

/-- The calls of all rounds are those of the first round, and those once more for every further round,
with the variables of that round. -/
theorem hookCalls_run (base : String) (cases : List Case) (first : Round) (later : List Round) :
    hookCalls base cases (first :: later) =
      (first.run base cases).calls ++
        later.flatMap fun r => (first.run base cases).calls.map (HookCall.withStore r.store) := by
  have hlater : hookCalls base (first.run base cases).cases later =
      later.flatMap fun r => (first.run base cases).calls.map (HookCall.withStore r.store) := by
    induction later with
    | nil => rfl
    | cons r rest ih =>
        have hcalls := Event.calls_withStore r.store (first.run base cases).events
        rw [hookCalls, Round.run_again, ih, List.flatMap_cons, Outcome.calls, hcalls]
        rfl
  rw [hookCalls, hlater]

/-- In the first round a waiting case that is executed ends with a verdict, and its hook is called in its
turn, once, with its final report and the variables as its own captures leave them. A case that is not
executed is skipped, and its hook is not called. Every further round executes nothing, and yet makes all
calls of the first round once more, in the same order and with its own variables. -/
theorem hook_law (base : String) (cases : List Case) (first : Round) (later : List Round)
    (hw : ∀ c ∈ cases, c.status = .waiting) :
    let transport := first.transport.recording
    let o := first.run base cases
    (∀ before c after, cases = before ++ c :: after →
      let earlier := runCases transport base before first.store (first.peer, [])
      let own := turnAfter transport base before c first.store (first.peer, [])
      let captured := capturesAfter transport base before c first.store (first.peer, [])
      ∃ c' last, o = earlier.append (own.append last) ∧ own.cases = [c'] ∧
        own.store = earlier.store.insertAll captured ∧
        (ExecutedAfter transport base before c first.store (first.peer, []) →
          c'.status.IsVerdict ∧ own.calls = (c'.hookCall? own.store).toList) ∧
        (¬ ExecutedAfter transport base before c first.store (first.peer, []) →
          c'.status = .skipped ∧ own.calls = [])) ∧
    hookCalls base cases (first :: later) =
      o.calls ++ later.flatMap fun r => o.calls.map (HookCall.withStore r.store) := by
  intro transport o
  refine ⟨?_, hookCalls_run base cases first later⟩
  rintro before c after rfl earlier own captured
  have hc : c.status = .waiting := hw c (by simp)
  obtain ⟨last, hsplit⟩ := runCases_split transport base before c after first.store (first.peer, [])
  obtain ⟨c', hown⟩ := cases_turnAfter transport base before c first.store (first.peer, [])
  refine ⟨c', last, hsplit, hown, store_turn transport base _ c _ _, ?_, ?_⟩
  · intro hexecuted
    exact calls_turnAfter_of_executed transport base before c _ _ hexecuted hown
  · intro hnot
    exact calls_turnAfter_of_not_executed transport base before c _ _ hc hnot hown

/-- Of two cases the first one fails and the second one is skipped for it. Over two rounds the hook of
the first one is called in its turn and once more, and that of the second one never. -/
theorem hook_law_failed :
    let a := ((Case.new "a" .get "/a").expectStatus 200).onComplete ⟨["USER"]⟩
    let b := ((Case.new "b" .get "/b").dependsOn "a").onComplete ⟨[]⟩
    let peer := Script.empty.append (.get, "/a") (.ok (.ofStatus 500))
    let first : Round := ⟨Script, Script.transport, peer, .empty⟩
    let again : Round := ⟨Script, Script.transport, .empty, Store.set .empty "USER" "u"⟩
    let transport := first.transport.recording
    let o := first.run "http://h" [a, b]
    let own := turnAfter transport "http://h" [] a .empty (peer, [])
    o.cases.map Case.status = [.failed, .skipped] ∧
      o.calls.map (fun call => (call.report.id, call.report.status)) = [("a", .failed)] ∧
      (∃ a', own.cases = [a'] ∧ a'.status.IsVerdict ∧ own.calls = (a'.hookCall? own.store).toList) ∧
      (turnAfter transport "http://h" [a] b .empty (peer, [])).calls = [] ∧
      hookCalls "http://h" [a, b] [first, again] =
        o.calls ++ o.calls.map (HookCall.withStore again.store) := by
  intro a b peer first again transport o own
  have hwaiting : ∀ c ∈ [a, b], c.status = .waiting := by
    rw [List.forall_mem_cons, List.forall_mem_singleton]
    exact ⟨rfl, rfl⟩
  obtain ⟨hturn, hcalls⟩ := hook_law "http://h" [a, b] first [again] hwaiting
  have ha : ExecutedAfter transport "http://h" [] a .empty (peer, []) := ⟨rfl, rfl⟩
  have hblocker : b.blocker? (record .empty
      (runCases transport "http://h" [a] .empty (peer, [])).cases) = some "a" := by decide +kernel
  have hb : ¬ ExecutedAfter transport "http://h" [a] b .empty (peer, []) := by
    rintro ⟨-, hnone⟩
    exact absurd (hblocker.symm.trans hnone) (Option.some_ne_none _)
  obtain ⟨a', -, -, hown, -, hexecuted, -⟩ := hturn [] a [b] rfl
  obtain ⟨b', -, -, -, -, -, hskipped⟩ := hturn [a] b [] rfl
  refine ⟨by decide +kernel, by decide +kernel, ⟨a', hown, hexecuted ha⟩, (hskipped hb).2, ?_⟩
  simpa using hcalls

/-- The hook of an executed case is called once in the first round and a second time in the next one,
which sends nothing. -/
theorem hook_called_again :
    let a := (Case.new "a" .get "/a").onComplete ⟨[]⟩
    let peer := Script.empty.append (.get, "/a") (.ok (.ofJson 200 (.object [("id", .bool true)])))
    let round : Round := ⟨Script, Script.transport, peer, .empty⟩
    let o := round.run "http://h" [a]
    a.status = .waiting ∧ o.cases.map Case.status = [.passed] ∧ o.peer.2.length = 1 ∧
      (round.run "http://h" o.cases).peer.2 = [] ∧
      (hookCalls "http://h" [a] [round]).map (fun call => call.report.id) = ["a"] ∧
      (hookCalls "http://h" [a] [round, round]).map (fun call => call.report.id) = ["a", "a"] := by
  decide +kernel

end Probe
