import Probe.Case.Execute

/-!
# What an execution comes to

Executing a waiting case sends at most one request and ends the case with a verdict: passed, failed or
in error. Nothing but the state of the case changes. A transport that keeps a log of its requests
shows what is sent. Main statements:

* `execute_of_request`: an execution that sends its request.
* `execute_cases`: the ways in which an execution can end.
* `exists_verdict`: an execution writes a verdict.
* `execute_recording`: a log does not change an execution, and gets the requests that are sent.
-/

namespace Probe

/-- The statuses that only an execution leads to. -/
def Status.IsVerdict (s : Status) : Prop :=
  s = .passed ∨ s = .failed ∨ s = .error

theorem Status.IsVerdict.isFinal {s : Status} (h : s.IsVerdict) : s.isFinal = true := by
  rcases h with rfl | rfl | rfl <;> rfl

theorem Status.IsVerdict.ne_skipped {s : Status} (h : s.IsVerdict) : s ≠ .skipped := by
  rcases h with rfl | rfl | rfl <;> simp

theorem Status.isFinal_iff (s : Status) : s.isFinal = true ↔ s.IsVerdict ∨ s = .skipped := by
  cases s <;> simp [isFinal, IsVerdict]

theorem Status.isFinal_iff_ne_waiting (s : Status) : s.isFinal = true ↔ s ≠ .waiting := by
  simp [isFinal]

/-- The endings that an execution may come to. -/
inductive Ending.IsVerdict : Ending → Prop where
  | passed : IsVerdict .passed
  | failed (why : Failure) (response : Option Dump) : IsVerdict (.failed why response)
  | error (why : Obstacle) : IsVerdict (.error why)

theorem Ending.IsVerdict.status {e : Ending} (h : e.IsVerdict) : e.status.IsVerdict := by
  cases h with
  | passed => exact .inl rfl
  | failed why response => exact .inr (.inl rfl)
  | error why => exact .inr (.inr rfl)

/-- The transport with a log of the requests that it was sent. -/
def Transport.recording {σ : Type} (t : Transport σ) : Transport (σ × List Request) :=
  ⟨fun request (s, log) =>
    let (answer, s) := t.send request s
    (answer, s, log ++ [request])⟩

/-- The state of a transport after requests, whatever it answers. -/
def Transport.after {σ : Type} (t : Transport σ) (requests : List Request) (s : σ) : σ :=
  requests.foldl (fun s request => (t.send request s).2) s

namespace Case

/-! ## Verdicts -/

theorem isVerdict_judgeBody (c : Case) (body : Json.Value) (store : Store) :
    (c.judgeBody body store).1.IsVerdict := by
  unfold judgeBody
  split
  · split
    · exact .passed
    · exact .failed _ _
  · split
    · exact .passed
    · exact .failed _ _

/-- Judging a response never leaves a case waiting and never skips it. -/
theorem isVerdict_judge (c : Case) (r : Response) (store : Store) :
    (c.judge r store).1.IsVerdict := by
  unfold judge
  split
  · exact .failed _ _
  · split
    · split
      · exact isVerdict_judgeBody c _ store
      · exact .error _
    · exact .failed _ _

theorem isFinal_iff_ne_waiting (c : Case) : c.state.isFinal = true ↔ c.status ≠ .waiting :=
  Status.isFinal_iff_ne_waiting c.status

theorem not_isFinal_of_waiting (c : Case) (hw : c.status = .waiting) : ¬ c.state.isFinal = true := by
  rw [isFinal_iff_ne_waiting]
  exact not_not_intro hw

/-! ## Executions -/

section

variable {σ : Type} (transport : Transport σ) (base : String)

/-- What the answer to its request makes of a case and of the variables. -/
def receive (c : Case) (store : Store) : Except TransportError Response → Case × Store
  | .error e => (c.finish (.error (.transport e)), store)
  | .ok response => (c.finish (c.judge response store).1, (c.judge response store).2)

/-- An execution that meets an obstacle sends nothing. -/
theorem execute_of_obstacle (c : Case) (store : Store) (s : σ) {why : Obstacle}
    (hfinal : ¬ c.state.isFinal = true) (hr : c.request base store = .error why) :
    c.execute transport base store s = (c.finish (.error why), store, s) := by
  rw [execute, if_neg hfinal, hr]

/-- Any other execution sends one request, and the case receives the answer. -/
theorem execute_of_request (c : Case) (store : Store) (s : σ) {request : Request}
    (hfinal : ¬ c.state.isFinal = true) (hr : c.request base store = .ok request) :
    c.execute transport base store s =
      ((c.receive store (transport.send request s).1).1, (c.receive store (transport.send request s).1).2,
        (transport.send request s).2) := by
  rw [execute, if_neg hfinal, hr]
  obtain ⟨answer, s', hs⟩ : ∃ answer s', transport.send request s = (answer, s') := ⟨_, _, rfl⟩
  simp only [hs]
  cases answer <;> rfl

/-- An execution meets an obstacle and sends nothing, or sends one request, which fails or is answered
by a response. -/
theorem execute_cases (c : Case) (store : Store) (s : σ) (hw : c.status = .waiting) :
    (∃ why, c.request base store = .error why ∧
      c.execute transport base store s = (c.finish (.error why), store, s)) ∨
    (∃ request e s', c.request base store = .ok request ∧
      transport.send request s = (.error e, s') ∧
      c.execute transport base store s = (c.finish (.error (.transport e)), store, s')) ∨
    (∃ request response s', c.request base store = .ok request ∧
      transport.send request s = (.ok response, s') ∧
      c.execute transport base store s =
        (c.finish (c.judge response store).1, (c.judge response store).2, s')) := by
  have hfinal := c.not_isFinal_of_waiting hw
  cases hr : c.request base store with
  | error why =>
      left
      exact ⟨why, rfl, execute_of_obstacle transport base c store s hfinal hr⟩
  | ok request =>
      right
      have hexecute := execute_of_request transport base c store s hfinal hr
      obtain ⟨answer, s', hs⟩ : ∃ answer s', transport.send request s = (answer, s') := ⟨_, _, rfl⟩
      rw [hs] at hexecute
      cases answer with
      | error e =>
          left
          exact ⟨request, e, s', rfl, hs, hexecute⟩
      | ok response =>
          right
          exact ⟨request, response, s', rfl, hs, hexecute⟩

/-- Executing a waiting case writes a verdict, whatever the transport does. -/
theorem exists_verdict (c : Case) (store : Store) (s : σ) (hw : c.status = .waiting) :
    ∃ e : Ending, e.IsVerdict ∧ (c.execute transport base store s).1 = c.finish e := by
  rcases execute_cases transport base c store s hw with
    ⟨why, -, h⟩ | ⟨request, e, s', -, -, h⟩ | ⟨request, response, s', -, -, h⟩ <;> rw [h]
  · exact ⟨_, .error why, rfl⟩
  · exact ⟨_, .error (.transport e), rfl⟩
  · exact ⟨_, isVerdict_judge c response store, rfl⟩

theorem isVerdict_execute (c : Case) (store : Store) (s : σ) (hw : c.status = .waiting) :
    (c.execute transport base store s).1.status.IsVerdict := by
  obtain ⟨e, he, hc⟩ := exists_verdict transport base c store s hw
  rw [hc]
  exact he.status

/-- An execution changes nothing of a case but its state. -/
theorem execute_eq (c : Case) (store : Store) (s : σ) :
    (c.execute transport base store s).1 =
      { c with state := (c.execute transport base store s).1.state } := by
  by_cases hw : c.status = .waiting
  · obtain ⟨e, -, hc⟩ := exists_verdict transport base c store s hw
    rw [hc]
    rfl
  · rw [execute_of_isFinal transport base c store s (c.isFinal_iff_ne_waiting.2 hw)]

theorem isFinal_execute (c : Case) (store : Store) (s : σ) :
    (c.execute transport base store s).1.state.isFinal = true := by
  by_cases hw : c.status = .waiting
  · exact (isVerdict_execute transport base c store s hw).isFinal
  · have hfinal := c.isFinal_iff_ne_waiting.2 hw
    rw [execute_of_isFinal transport base c store s hfinal]
    exact hfinal

end

/-! ## Requests that are sent -/

/-- The requests that an execution sends. -/
def sends (c : Case) (base : String) (store : Store) : List Request :=
  if c.state.isFinal then [] else (c.request base store).toOption.toList

theorem sends_of_isFinal (c : Case) (base : String) (store : Store) (h : c.state.isFinal = true) :
    c.sends base store = [] := by
  simp [sends, h]

theorem sends_of_obstacle (c : Case) (base : String) (store : Store) {why : Obstacle}
    (hr : c.request base store = .error why) : c.sends base store = [] := by
  simp [sends, hr, Except.toOption]

theorem sends_of_request (c : Case) (base : String) (store : Store) {request : Request}
    (hfinal : ¬ c.state.isFinal = true) (hr : c.request base store = .ok request) :
    c.sends base store = [request] := by
  simp [sends, hfinal, hr, Except.toOption]

theorem length_sends_le_one (c : Case) (base : String) (store : Store) :
    (c.sends base store).length ≤ 1 := by
  unfold sends
  split
  · simp
  · cases (c.request base store).toOption <;> simp

/-- An execution leaves its transport as the requests leave it that are sent. -/
theorem peer_execute {σ : Type} (transport : Transport σ) (base : String) (c : Case) (store : Store)
    (s : σ) : (c.execute transport base store s).2.2 = transport.after (c.sends base store) s := by
  by_cases hfinal : c.state.isFinal = true
  · rw [execute_of_isFinal transport base c store s hfinal, sends_of_isFinal c base store hfinal]
    rfl
  · cases hr : c.request base store with
    | error why =>
        rw [execute_of_obstacle transport base c store s hfinal hr, sends_of_obstacle c base store hr]
        rfl
    | ok request =>
        rw [execute_of_request transport base c store s hfinal hr, sends_of_request c base store hfinal hr]
        rfl

/-- A log does not change an execution, and gets the requests that are sent. -/
theorem execute_recording {σ : Type} (transport : Transport σ) (base : String) (c : Case)
    (store : Store) (s : σ) (log : List Request) :
    c.execute transport.recording base store (s, log) =
      ((c.execute transport base store s).1, (c.execute transport base store s).2.1,
        (c.execute transport base store s).2.2, log ++ c.sends base store) := by
  by_cases hfinal : c.state.isFinal = true
  · simp [execute_of_isFinal, hfinal, sends_of_isFinal]
  · cases hr : c.request base store with
    | error why =>
        rw [execute_of_obstacle transport base c store s hfinal hr,
          execute_of_obstacle transport.recording base c store (s, log) hfinal hr,
          sends_of_obstacle c base store hr, List.append_nil]
    | ok request =>
        rw [execute_of_request transport base c store s hfinal hr,
          execute_of_request transport.recording base c store (s, log) hfinal hr,
          sends_of_request c base store hfinal hr]
        rfl

/-! ## Skipping -/

theorem skip_of_waiting (c : Case) (dependency : String) (hw : c.status = .waiting) :
    c.skip dependency =
      { c with state := { c.state with skippedBy := some dependency } }.finish (.skipped dependency) := by
  rw [skip, if_neg (c.not_isFinal_of_waiting hw)]

/-- Skipping changes nothing of a case but its state. -/
theorem skip_eq (c : Case) (dependency : String) :
    c.skip dependency = { c with state := (c.skip dependency).state } := by
  unfold skip
  split <;> rfl

theorem isFinal_skip (c : Case) (dependency : String) : (c.skip dependency).state.isFinal = true := by
  unfold skip
  split
  · assumption
  · rfl

end Case

end Probe
