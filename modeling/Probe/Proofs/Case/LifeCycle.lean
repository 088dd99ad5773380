import Probe.Http.Script
import Probe.Proofs.Case.Execution

/-!
# The life of a case

A case is built, and then operations are applied to it in any order and number: it is executed with
any transport, skipped for any dependency, its hook is called, it is flagged as flawed. Every operation
finds variables of its own, so that nothing is assumed of what happens between two of them. The first
execution or skip decides the case for good. Main statements:

* `coherent_apply`: an operation leaves the fields of a report fitting together.
* `apply_of_isFinal`: an operation on a final case has no effect that can be seen.
* `life_cycle`: what holds of a built case after any operations.
-/

namespace Probe

/-- A report whose fields fit together. -/
structure Report.Coherent (r : Report) : Prop where
  of_waiting : r.status = .waiting → r.message = "" ∧ r.skippedBy = none ∧ r.response = none
  skipped_iff : (∃ d, r.skippedBy = some d) ↔ r.status = .skipped
  of_skippedBy : ∀ d, r.skippedBy = some d → r.message = "Skipping due to dependency " ++ d
  of_passed : r.status = .passed → r.message = "Test OK"
  of_response : r.response ≠ none → r.status = .failed

/-- What is done to a case once it is built. -/
inductive Operation : Type 1 where
  /-- Executes the case with a transport in some state. -/
  | execute {σ : Type} (transport : Transport σ) (peer : σ) (base : String)
  | skip (dependency : String)
  | callHook
  | flag (reason : String)

/-- What an operation comes to. -/
structure Effect where
  case : Case
  /-- The variables that the operation found. -/
  found : Store
  /-- The variables that the operation left. -/
  left : Store
  sent : List Request
  calls : List HookCall

namespace Operation

/-- An operation that decides a waiting case. -/
def decides : Operation → Bool
  | execute _ _ _ | skip _ => true
  | callHook | flag _ => false

/-- Applies an operation to a case, with the variables given. -/
def apply (c : Case) (store : Store) : Operation → Effect
  | execute transport peer base =>
      let (c, left, _, sent) := c.execute transport.recording base store (peer, [])
      ⟨c, store, left, sent, []⟩
  | skip dependency => ⟨c.skip dependency, store, store, [], []⟩
  | callHook => ⟨c, store, store, [], (c.hookCall? store).toList⟩
  | flag reason => ⟨c.flag reason, store, store, [], []⟩

end Operation

namespace Case

/-- The cases that are made by building steps. -/
inductive Built : Case → Prop where
  | new (id : String) (method : Method) (route : String) : Built (new id method route)
  | guard {c : Case} : Built c → Built c.guard
  | silence {c : Case} : Built c → Built c.silence
  | dependsOn {c : Case} (id : String) : Built c → Built (c.dependsOn id)
  | param {c : Case} (name : String) (e : Expectation) : Built c → Built (c.param name e)
  | routeParam {c : Case} (name : String) (e : Expectation) : Built c → Built (c.routeParam name e)
  | expectField {c : Case} (name : String) (e : Expectation) : Built c → Built (c.expectField name e)
  | withParams {c : Case} (params : FieldMap) : Built c → Built (c.withParams params)
  | withRouteParams {c : Case} (params : FieldMap) : Built c → Built (c.withRouteParams params)
  | withExpected {c : Case} (expected : FieldMap) : Built c → Built (c.withExpected expected)
  | expectStatus {c : Case} (status : Nat) : Built c → Built (c.expectStatus status)
  | forbidStatus {c : Case} (status : Nat) : Built c → Built (c.forbidStatus status)
  | onComplete {c : Case} (hook : Hook) : Built c → Built (c.onComplete hook)

/-- The case after operations, each of which finds the variables beside it. -/
def after (c : Case) : List (Operation × Store) → Case
  | [] => c
  | (op, store) :: rest => (op.apply c store).case.after rest

/-- What operations come to, one after the other. -/
def effects (c : Case) : List (Operation × Store) → List Effect
  | [] => []
  | (op, store) :: rest => op.apply c store :: (op.apply c store).case.effects rest

theorem Built.state_eq_waiting {c : Case} (h : Built c) : c.state = .waiting := by
  induction h with
  | new => rfl
  | _ => assumption

/-! ## Fields that fit together -/

theorem Built.coherent_report {c : Case} (h : Built c) : c.report.Coherent := by
  have hstate := h.state_eq_waiting
  unfold report
  rw [hstate]
  exact
    { of_waiting := fun _ => ⟨rfl, rfl, rfl⟩
      skipped_iff := by simp [State.waiting]
      of_skippedBy := by simp [State.waiting]
      of_passed := by simp [State.waiting]
      of_response := by simp [State.waiting] }

/-- A verdict fits a case that waited: it has no dependency that it was skipped for. -/
theorem coherent_finish (c : Case) {e : Ending} (he : e.IsVerdict) (hw : c.status = .waiting)
    (h : c.report.Coherent) : (c.finish e).report.Coherent := by
  have hnone : (c.finish e).report.skippedBy = none := by
    show (c.state.finish e).skippedBy = none
    rw [State.skippedBy_finish]
    exact (h.of_waiting hw).2.1
  have hverdict : (c.finish e).report.status.IsVerdict := he.status
  constructor
  · intro hwaiting
    exact absurd hwaiting ((Status.isFinal_iff_ne_waiting _).1 hverdict.isFinal)
  · rw [hnone]
    exact iff_of_false (by simp) hverdict.ne_skipped
  · intro d hd
    rw [hnone] at hd
    cases hd
  · intro hpassed
    cases he with
    | passed => rfl
    | failed why response => cases hpassed
    | error why => cases hpassed
  · intro hresponse
    cases he with
    | passed => exact absurd rfl hresponse
    | failed why response => rfl
    | error why => exact absurd rfl hresponse

theorem coherent_execute {σ : Type} (transport : Transport σ) (base : String) (c : Case) (store : Store)
    (s : σ) (h : c.report.Coherent) : (c.execute transport base store s).1.report.Coherent := by
  by_cases hw : c.status = .waiting
  · obtain ⟨e, he, hc⟩ := exists_verdict transport base c store s hw
    rw [hc]
    exact coherent_finish c he hw h
  · rw [execute_of_isFinal transport base c store s (c.isFinal_iff_ne_waiting.2 hw)]
    exact h

theorem coherent_skip (c : Case) (dependency : String) (h : c.report.Coherent) :
    (c.skip dependency).report.Coherent := by
  by_cases hw : c.status = .waiting
  · rw [skip_of_waiting c dependency hw]
    constructor
    · intro hwaiting
      cases hwaiting
    · exact iff_of_true ⟨dependency, rfl⟩ rfl
    · intro d hd
      cases hd
      rfl
    · intro hpassed
      cases hpassed
    · intro hresponse
      exact absurd rfl hresponse
  · rw [skip_of_isFinal c dependency (c.isFinal_iff_ne_waiting.2 hw)]
    exact h

/-- An operation leaves the fields of a report fitting together. -/
theorem coherent_apply (c : Case) (store : Store) (op : Operation) (h : c.report.Coherent) :
    (op.apply c store).case.report.Coherent := by
  cases op with
  | execute transport peer base =>
      exact coherent_execute transport.recording base c store (peer, []) h
  | skip dependency => exact coherent_skip c dependency h
  | callHook => exact h
  | flag reason => exact h

theorem coherent_after (c : Case) (life : List (Operation × Store)) (h : c.report.Coherent) :
    (c.after life).report.Coherent := by
  induction life generalizing c with
  | nil => exact h
  | cons step rest ih =>
      obtain ⟨op, store⟩ := step
      exact ih _ (coherent_apply c store op h)

/-! ## One operation -/

/-- An operation on a final case changes no report, sends nothing and leaves the variables alone. -/
theorem apply_of_isFinal (c : Case) (store : Store) (op : Operation) (h : c.state.isFinal = true) :
    (op.apply c store).case.state = c.state ∧ (op.apply c store).case.report = c.report ∧
      (op.apply c store).sent = [] ∧ (op.apply c store).left = (op.apply c store).found := by
  cases op with
  | execute transport peer base =>
      have hrun := execute_of_isFinal transport.recording base c store (peer, []) h
      simp [Operation.apply, hrun]
  | skip dependency =>
      have hskip := skip_of_isFinal c dependency h
      simp [Operation.apply, hskip]
  | callHook => exact ⟨rfl, rfl, rfl, rfl⟩
  | flag reason => exact ⟨rfl, rfl, rfl, rfl⟩

/-- The case is final after an operation that decides it, and in the state it was in after any other. -/
theorem state_apply (c : Case) (store : Store) (op : Operation) :
    if op.decides then (op.apply c store).case.state.isFinal = true
    else (op.apply c store).case.state = c.state := by
  cases op with
  | execute transport peer base => exact isFinal_execute transport.recording base c store (peer, [])
  | skip dependency => exact isFinal_skip c dependency
  | callHook => rfl
  | flag reason => rfl

/-- Only an execution sends something, and not more than one request. -/
theorem length_sent_apply (c : Case) (store : Store) (op : Operation) :
    (op.apply c store).sent.length ≤ if op.decides then 1 else 0 := by
  cases op with
  | execute transport peer base =>
      simp only [Operation.apply, execute_recording]
      exact length_sends_le_one c base store
  | skip dependency => exact Nat.zero_le _
  | callHook => exact Nat.zero_le _
  | flag reason => exact Nat.zero_le _

/-! ## Many operations -/

/-- A final case stays as it is. -/
theorem report_after_of_isFinal (c : Case) (life : List (Operation × Store))
    (h : c.state.isFinal = true) : (c.after life).report = c.report := by
  induction life generalizing c with
  | nil => rfl
  | cons step rest ih =>
      obtain ⟨op, store⟩ := step
      obtain ⟨hstate, hreport, -, -⟩ := apply_of_isFinal c store op h
      have hnext : (op.apply c store).case.state.isFinal = true := by rw [hstate]; exact h
      exact (ih _ hnext).trans hreport

/-- What is done to a final case has no effect. -/
theorem effects_of_isFinal (c : Case) (life : List (Operation × Store))
    (h : c.state.isFinal = true) : ∀ e ∈ c.effects life, e.sent = [] ∧ e.left = e.found := by
  induction life generalizing c with
  | nil => intro e he; cases he
  | cons step rest ih =>
      obtain ⟨op, store⟩ := step
      obtain ⟨hstate, -, hsent, hleft⟩ := apply_of_isFinal c store op h
      intro e he
      rcases List.mem_cons.1 he with rfl | he
      · exact ⟨hsent, hleft⟩
      · have hnext : (op.apply c store).case.state.isFinal = true := by rw [hstate]; exact h
        exact ih _ hnext e he

/-- All operations on a final case together send nothing, and those on a waiting one at most one
request: the one that is sent decides the case. -/
theorem length_sent_effects (c : Case) (life : List (Operation × Store)) :
    ((c.effects life).flatMap Effect.sent).length ≤ if c.state.isFinal then 0 else 1 := by
  induction life generalizing c with
  | nil => exact Nat.zero_le _
  | cons step rest ih =>
      obtain ⟨op, store⟩ := step
      have hrest := ih (op.apply c store).case
      have hfirst := length_sent_apply c store op
      simp only [effects, List.flatMap_cons, List.length_append]
      by_cases hfinal : c.state.isFinal = true
      · obtain ⟨hstate, -, hsent, -⟩ := apply_of_isFinal c store op hfinal
        rw [hstate, if_pos hfinal] at hrest
        rw [hsent, if_pos hfinal]
        simpa using hrest
      · have hnext := state_apply c store op
        rw [if_neg hfinal]
        by_cases hop : op.decides = true
        · rw [if_pos hop] at hnext hfirst
          rw [if_pos hnext] at hrest
          omega
        · rw [if_neg hop] at hnext hfirst
          rw [hnext, if_neg hfinal] at hrest
          omega

/-- A waiting case waits until the first operation that decides it. -/
theorem status_after_eq_waiting_iff (c : Case) (life : List (Operation × Store))
    (hw : c.status = .waiting) :
    (c.after life).status = .waiting ↔ ∀ step ∈ life, step.1.decides = false := by
  induction life generalizing c with
  | nil => simp [after, hw]
  | cons step rest ih =>
      obtain ⟨op, store⟩ := step
      have hnext := state_apply c store op
      by_cases hop : op.decides = true
      · rw [if_pos hop] at hnext
        constructor
        · intro hwait
          have hreport := report_after_of_isFinal (op.apply c store).case rest hnext
          have hstatus : (op.apply c store).case.status = .waiting :=
            (congrArg Report.status hreport).symm.trans hwait
          exact absurd hstatus ((isFinal_iff_ne_waiting _).1 hnext)
        · intro hall
          exact absurd hop (by simpa using hall (op, store) List.mem_cons_self)
      · rw [if_neg hop] at hnext
        have hstatus : (op.apply c store).case.status = .waiting :=
          (congrArg State.status hnext).trans hw
        simp only [after, ih _ hstatus, List.forall_mem_cons]
        simp [hop]

/-- After any operations on a built case: the fields of its report fit together; it waits as long as it
was neither executed nor skipped; while it waits, an execution ends with a verdict and a skip in
`skipped`; once it is final, no further operation changes its report, sends a request or changes a
variable; and not more than one request was sent in all. -/
theorem life_cycle (c : Case) (hc : Built c) (life : List (Operation × Store)) :
    (c.after life).report.Coherent ∧
    ((c.after life).status = .waiting ↔ ∀ step ∈ life, step.1.decides = false) ∧
    ((c.after life).status = .waiting →
      (∀ (σ : Type) (transport : Transport σ) (base : String) (store : Store) (peer : σ),
        ((c.after life).execute transport base store peer).1.status.IsVerdict) ∧
      ∀ d, ((c.after life).skip d).status = .skipped) ∧
    ((c.after life).status ≠ .waiting → ∀ more,
      ((c.after life).after more).report = (c.after life).report ∧
      ∀ e ∈ (c.after life).effects more, e.sent = [] ∧ e.left = e.found) ∧
    ((c.effects life).flatMap Effect.sent).length ≤ 1 := by
  have hw : c.status = .waiting := congrArg State.status hc.state_eq_waiting
  refine ⟨coherent_after c life hc.coherent_report, status_after_eq_waiting_iff c life hw, ?_, ?_, ?_⟩
  · intro hwait
    constructor
    · intro σ transport base store peer
      exact isVerdict_execute transport base _ store peer hwait
    · intro d
      rw [skip_of_waiting _ d hwait]
      rfl
  · intro hfinal more
    have hfinal := (isFinal_iff_ne_waiting _).2 hfinal
    exact ⟨report_after_of_isFinal _ more hfinal, effects_of_isFinal _ more hfinal⟩
  · have hlength := length_sent_effects c life
    rwa [if_neg (c.not_isFinal_of_waiting hw)] at hlength

/-- A case that is flagged and then executed is in error, and skipping and executing it later on changes
nothing. -/
theorem life_cycle_flagged :
    let c := (new "t" .get "/t").guard
    let life : List (Operation × Store) :=
      [(.flag "broken", .empty), (.callHook, .empty), (.execute Script.transport .empty "http://h", .empty)]
    let more : List (Operation × Store) :=
      [(.skip "s", .empty), (.execute Script.transport .empty "http://h", .empty)]
    Built c ∧ (c.after life).report.status = .error ∧ (c.after life).report.message = "broken" ∧
      (c.after life).report.Coherent ∧ ((c.after life).after more).report = (c.after life).report ∧
      (∀ e ∈ (c.after life).effects more, e.sent = [] ∧ e.left = e.found) ∧
      ((c.effects life).flatMap Effect.sent).length ≤ 1 := by
  intro c life more
  have hc : Built c := .guard (.new "t" .get "/t")
  obtain ⟨hcoherent, -, -, hfinal, hsent⟩ := life_cycle c hc life
  obtain ⟨hreport, heffects⟩ := hfinal (by decide) more
  exact ⟨hc, rfl, rfl, hcoherent, hreport, heffects, hsent⟩

end Case

end Probe
