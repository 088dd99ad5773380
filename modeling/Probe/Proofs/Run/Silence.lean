import Probe.Http.Script
import Probe.Proofs.Run.Simulation
import Probe.Run.Summary

/-!
# Silent cases

Silence is only about summaries: a run of cases that are made loud is the run of the cases, made loud
afterwards. So cases that differ only in which of them are silent come to the same but for that. What a
summary keeps are the reports of the cases that are not silent, and each counts for one status. Main
statements:

* `runFrom_loud`: making cases loud before a run or after it.
* `total_eq_sum`: a total is the sum of the counts.
* `silence_law`: what silence does and does not change.
-/

namespace Probe

/-! ## Leaving silence out of account -/

/-- The report of a case as if the case were not silent. -/
def Report.loud (r : Report) : Report := { r with silent := false }

/-- The case as one that is not silent. -/
def Case.loud (c : Case) : Case := { c with silent := false }

/-- The call of a hook as if the case were not silent. -/
def HookCall.loud (call : HookCall) : HookCall := { call with report := call.report.loud }

/-- The event as if the case were not silent. -/
def Event.loud : Event → Event
  | completed call => completed call.loud
  | reported r => reported r.loud

namespace Outcome

variable {σ : Type}

/-- The outcome as if no case were silent. -/
def loud (o : Outcome σ) : Outcome σ :=
  ⟨o.cases.map Case.loud, o.events.map Event.loud, o.store, o.peer⟩

theorem loud_append (a b : Outcome σ) : (a.append b).loud = a.loud.append b.loud := by
  simp [loud, append]

theorem reports_loud (o : Outcome σ) : o.loud.reports = o.reports.map Report.loud :=
  Event.filterMap_map_of_view Event.report? Event.loud Report.loud (by rintro (call | r) <;> rfl) o.events

theorem calls_loud (o : Outcome σ) : o.loud.calls = o.calls.map HookCall.loud :=
  Event.filterMap_map_of_view Event.call? Event.loud HookCall.loud (by rintro (call | r) <;> rfl) o.events

end Outcome

section

variable {σ : Type} (transport : Transport σ) (base : String)

/-- The judgement of a response does not look at silence, -/
theorem Case.receive_loud (c : Case) (store : Store) (answer : Except TransportError Response) :
    c.loud.receive store answer = ((c.receive store answer).1.loud, (c.receive store answer).2) := by
  cases answer <;> rfl

/-- and neither does the request. -/
theorem Case.execute_loud (c : Case) (store : Store) (s : σ) :
    c.loud.execute transport base store s =
      ((c.execute transport base store s).1.loud, (c.execute transport base store s).2) := by
  by_cases hfinal : c.state.isFinal = true
  · rw [execute_of_isFinal transport base c store s hfinal,
      execute_of_isFinal transport base c.loud store s hfinal]
  · cases hr : c.request base store with
    | error why =>
        rw [execute_of_obstacle transport base c store s hfinal hr,
          execute_of_obstacle transport base c.loud store s hfinal hr]
        rfl
    | ok request =>
        rw [execute_of_request transport base c store s hfinal hr,
          execute_of_request transport base c.loud store s hfinal hr, c.receive_loud]

theorem Case.skip_loud (c : Case) (dependency : String) : c.loud.skip dependency = (c.skip dependency).loud := by
  unfold skip
  by_cases hfinal : c.state.isFinal = true
  · have hloud : c.loud.state.isFinal = true := hfinal
    rw [if_pos hfinal, if_pos hloud]
  · have hloud : ¬ c.loud.state.isFinal = true := hfinal
    rw [if_neg hfinal, if_neg hloud]
    rfl

theorem turn_loud (statuses : Statuses) (c : Case) (store : Store) (s : σ) :
    turn transport base statuses c.loud store s = (turn transport base statuses c store s).loud := by
  have hblocker : c.loud.blocker? statuses = c.blocker? statuses := rfl
  cases hb : c.blocker? statuses with
  | some d =>
      rw [turn_of_blocker transport base statuses c store s d hb,
        turn_of_blocker transport base statuses c.loud store s d (hblocker.trans hb), c.skip_loud d]
      rfl
  | none =>
      rw [turn_of_free transport base statuses c store s hb,
        turn_of_free transport base statuses c.loud store s (hblocker.trans hb), c.execute_loud]
      -- Whether a hook is called is not a matter of silence, but what it is told of the case is.
      cases hhook : (c.execute transport base store s).1.hook <;>
        simp [Outcome.loud, Case.hookCall?, Case.loud, Event.loud, HookCall.loud, Report.loud,
          Case.report, hhook]

theorem record_loud (statuses : Statuses) (cases : List Case) :
    record statuses (cases.map Case.loud) = record statuses cases := by
  rw [record, List.foldl_map]
  rfl

/-- A run of cases that are made loud is the run of the cases, made loud afterwards. -/
theorem runFrom_loud (statuses : Statuses) (cases : List Case) (store : Store) (s : σ) :
    runFrom transport base statuses (cases.map Case.loud) store s =
      (runFrom transport base statuses cases store s).loud := by
  induction cases generalizing statuses store s with
  | nil => rfl
  | cons c rest ih =>
      have hrecord : record statuses (turn transport base statuses c store s).loud.cases =
          record statuses (turn transport base statuses c store s).cases := record_loud statuses _
      simp only [List.map_cons, runFrom, turn_loud, Outcome.loud_append, hrecord, ← ih]
      rfl

/-! ## What a summary keeps -/

/-- Takes in a report, unless it is that of a silent case. -/
def Summary.collect (t : Summary) (r : Report) : Summary :=
  if r.silent then t else t.push r

theorem Summary.foldl_collect (t : Summary) (reports : List Report) :
    reports.foldl Summary.collect t = ⟨t.reports ++ reports.filter fun r => !r.silent⟩ := by
  induction reports generalizing t with
  | nil => simp
  | cons r rest ih =>
      rw [List.foldl_cons, ih]
      cases hr : r.silent <;> simp [collect, push, hr]

/-- Without reports of waiting cases, the total is the sum of the counts of all other statuses. -/
theorem Summary.total_eq_sum (t : Summary) (h : ∀ r ∈ t.reports, r.status ≠ .waiting) :
    t.total = t.count .passed + t.count .failed + t.count .skipped + t.count .error := by
  obtain ⟨reports⟩ := t
  induction reports with
  | nil => rfl
  | cons r rest ih =>
      obtain ⟨hr, hrest⟩ := List.forall_mem_cons.1 h
      have hsum := ih hrest
      simp only [total, count, List.length_cons, List.countP_cons] at hsum ⊢
      cases hstatus : r.status with
      | waiting => exact absurd hstatus hr
      | _ => simp; omega

/-- Every case of a run is reported as silent as it is. -/
theorem silent_reports_runFrom (statuses : Statuses) (cases : List Case) (store : Store) (s : σ) :
    (runFrom transport base statuses cases store s).reports.map (fun r => (r.id, r.silent)) =
      cases.map fun c => (c.id, c.silent) := by
  have h := forall₂_runFrom transport base statuses cases store s
  rw [reports_runFrom, List.map_map]
  generalize (runFrom transport base statuses cases store s).cases = ended at h
  induction h with
  | nil => rfl
  | cons hends _ ih =>
      rw [List.map_cons, List.map_cons, ih, hends.eq]
      rfl

theorem total_summary_runCases (cases : List Case) (store : Store) (s : σ) :
    (runCases transport base cases store s).summary.total = cases.countP fun c => !c.silent := by
  have h := congrArg (List.countP fun p : String × Bool => !p.2)
    (silent_reports_runFrom transport base .empty cases store s)
  rw [List.countP_map, List.countP_map] at h
  rw [Outcome.summary, Summary.total, ← List.countP_eq_length_filter]
  exact h

theorem ne_waiting_of_mem_summary (cases : List Case) (store : Store) (s : σ) :
    ∀ r ∈ (runCases transport base cases store s).summary.reports, r.status ≠ .waiting := by
  intro r hr
  have hreports : (runCases transport base cases store s).reports = _ :=
    reports_runFrom transport base .empty cases store s
  rw [Outcome.summary, hreports] at hr
  obtain ⟨c, hc, rfl⟩ := List.mem_map.1 (List.mem_filter.1 hr).1
  exact (Status.isFinal_iff_ne_waiting _).1 (isFinal_of_mem_runFrom transport base .empty cases store s c hc)

/-- Cases that differ only in which of them are silent come to runs that differ only in that: in
statuses, messages, skips, responses, calls of hooks and requests as well as in the variables. Of every
run, the summary is that of a collector who leaves out the reports of silent cases: there is one report for
each case, in their order, and the total is the number of the others, each of which has passed, failed, met
an error or was skipped. -/
theorem silence_law (cases : List Case) (store : Store) (s : σ) :
    let run := fun cases => runCases transport.recording base cases store (s, [])
    let o := run cases
    (∀ cases' : List Case, cases'.map Case.loud = cases.map Case.loud →
      let o' := run cases'
      o'.cases.map Case.loud = o.cases.map Case.loud ∧ o'.events.map Event.loud = o.events.map Event.loud ∧
      o'.reports.map Report.loud = o.reports.map Report.loud ∧
      o'.calls.map HookCall.loud = o.calls.map HookCall.loud ∧ o'.sent = o.sent ∧
      o'.peer.1 = o.peer.1 ∧ o'.store = o.store) ∧
    o.reports = o.cases.map Case.report ∧
    o.reports.map (fun r => (r.id, r.silent)) = cases.map (fun c => (c.id, c.silent)) ∧
    o.summary = o.reports.foldl Summary.collect .empty ∧
    o.summary.reports = (o.reports.filter fun r => !r.silent) ∧
    o.summary.total = (cases.countP fun c => !c.silent) ∧
    o.summary.total = o.summary.count .passed + o.summary.count .failed + o.summary.count .skipped +
      o.summary.count .error := by
  intro run o
  refine ⟨?_, reports_runFrom transport.recording base .empty cases store (s, []),
    silent_reports_runFrom transport.recording base .empty cases store (s, []), ?_, rfl,
    total_summary_runCases transport.recording base cases store (s, []), ?_⟩
  · intro cases' hcases o'
    have hloud : o'.loud = o.loud := by
      calc o'.loud = runCases transport.recording base (cases'.map Case.loud) store (s, []) :=
            (runFrom_loud transport.recording base .empty cases' store (s, [])).symm
        _ = runCases transport.recording base (cases.map Case.loud) store (s, []) := by rw [hcases]
        _ = o.loud := runFrom_loud transport.recording base .empty cases store (s, [])
    have hstore : o'.loud.store = o.loud.store := congrArg Outcome.store hloud
    have hpeer : o'.loud.peer = o.loud.peer := congrArg Outcome.peer hloud
    refine ⟨congrArg Outcome.cases hloud, congrArg Outcome.events hloud, ?_, ?_,
      congrArg Prod.snd hpeer, congrArg Prod.fst hpeer, hstore⟩
    · rw [← Outcome.reports_loud, hloud, Outcome.reports_loud]
    · rw [← Outcome.calls_loud, hloud, Outcome.calls_loud]
  · rw [Summary.foldl_collect]
    rfl
  · exact Summary.total_eq_sum _ (ne_waiting_of_mem_summary transport.recording base cases store (s, []))

end

/-- A failing case is made silent: the case that depends on it is skipped all the same, and only the
summary has one report less. -/
theorem silence_law_gate :
    let a := ((Case.new "a" .get "/a").expectStatus 201).onComplete ⟨["ID"]⟩
    let b := (Case.new "b" .get "/b").dependsOn "a"
    let peer := Script.empty.append (.get, "/a") (.ok (.ofStatus 200))
    let run := fun cases => runCases Script.transport.recording "http://h" cases .empty (peer, [])
    let o := run [a, b]
    let o' := run [a.silence, b]
    [a.silence, b].map Case.loud = [a, b].map Case.loud ∧
      o'.cases.map Case.status = [.failed, .skipped] ∧
      o'.reports.map Report.loud = o.reports.map Report.loud ∧
      o'.calls.map HookCall.loud = o.calls.map HookCall.loud ∧ o'.sent = o.sent ∧
      o'.store = o.store ∧ o.summary.total = 2 ∧ o'.summary.total = 1 := by
  intro a b peer run o o'
  obtain ⟨hsame, -⟩ := silence_law Script.transport "http://h" [a, b] .empty peer
  obtain ⟨-, -, hreports, hcalls, hsent, -, hstore⟩ := hsame [a.silence, b] rfl
  exact ⟨rfl, by decide +kernel, hreports, hcalls, hsent, hstore, by decide +kernel, by decide +kernel⟩

end Probe
