import Probe.Proofs.Run.Turns

/-!
# Transports that answer alike

A run sees of its transport nothing but the answers. Two transports whose states stay related, and which
answer alike in related states, lead to the same cases, events and variables. One instance is the log of
requests, which a run only adds to. Main statements:

* `runFrom_simulated`: runs with transports that answer alike.
* `runFrom_log`: a run adds to the log what it adds to an empty one.
-/

namespace Probe

attribute [ext] Outcome

/-- In related states two transports answer every request alike, and they stay related. -/
def Transport.Simulation {σ τ : Type} (t : Transport σ) (t' : Transport τ) (R : σ → τ → Prop) : Prop :=
  ∀ request s s', R s s' →
    (t'.send request s').1 = (t.send request s).1 ∧ R (t.send request s).2 (t'.send request s').2

/-- Two outcomes that differ only in their transports, whose states are related. -/
structure Outcome.Alike {σ τ : Type} (R : σ → τ → Prop) (o : Outcome σ) (o' : Outcome τ) : Prop where
  cases : o'.cases = o.cases
  events : o'.events = o.events
  store : o'.store = o.store
  peer : R o.peer o'.peer

section

variable {σ τ : Type} {t : Transport σ} {t' : Transport τ} {R : σ → τ → Prop} (base : String)

theorem Outcome.Alike.append {a b : Outcome σ} {a' b' : Outcome τ} (h : a.Alike R a')
    (h' : b.Alike R b') : (a.append b).Alike R (a'.append b') where
  cases := by simp only [Outcome.append, h.cases, h'.cases]
  events := by simp only [Outcome.append, h.events, h'.events]
  store := h'.store
  peer := h'.peer

theorem Case.execute_simulated (h : t.Simulation t' R) (c : Case) (store : Store) {s : σ} {s' : τ}
    (hs : R s s') :
    (c.execute t' base store s').1 = (c.execute t base store s).1 ∧
      (c.execute t' base store s').2.1 = (c.execute t base store s).2.1 ∧
      R (c.execute t base store s).2.2 (c.execute t' base store s').2.2 := by
  by_cases hfinal : c.state.isFinal = true
  · rw [execute_of_isFinal t base c store s hfinal, execute_of_isFinal t' base c store s' hfinal]
    exact ⟨rfl, rfl, hs⟩
  · cases hr : c.request base store with
    | error why =>
        rw [execute_of_obstacle t base c store s hfinal hr, execute_of_obstacle t' base c store s' hfinal hr]
        exact ⟨rfl, rfl, hs⟩
    | ok request =>
        obtain ⟨hanswer, hnext⟩ := h request s s' hs
        rw [execute_of_request t base c store s hfinal hr, execute_of_request t' base c store s' hfinal hr,
          hanswer]
        exact ⟨rfl, rfl, hnext⟩

theorem turn_simulated (h : t.Simulation t' R) (statuses : Statuses) (c : Case) (store : Store) {s : σ}
    {s' : τ} (hs : R s s') :
    (turn t base statuses c store s).Alike R (turn t' base statuses c store s') := by
  cases hb : c.blocker? statuses with
  | some d =>
      rw [turn_of_blocker t base statuses c store s d hb, turn_of_blocker t' base statuses c store s' d hb]
      exact ⟨rfl, rfl, rfl, hs⟩
  | none =>
      obtain ⟨hcase, hstore, hpeer⟩ := Case.execute_simulated base h c store hs
      rw [turn_of_free t base statuses c store s hb, turn_of_free t' base statuses c store s' hb]
      refine ⟨?_, ?_, hstore, hpeer⟩
      · simp only [hcase]
      · simp only [hcase, hstore]

/-- Runs with transports that answer alike differ only in the states of the transports. -/
theorem runFrom_simulated (h : t.Simulation t' R) (statuses : Statuses) (cases : List Case)
    (store : Store) {s : σ} {s' : τ} (hs : R s s') :
    (runFrom t base statuses cases store s).Alike R (runFrom t' base statuses cases store s') := by
  induction cases generalizing statuses store s s' with
  | nil => exact ⟨rfl, rfl, rfl, hs⟩
  | cons c rest ih =>
      have hturn := turn_simulated base h statuses c store hs
      -- The turns record the same statuses and leave the same variables to the rest.
      simp only [runFrom]
      rw [hturn.cases, hturn.store]
      exact hturn.append (ih _ _ hturn.peer)

end

/-! ## The log of requests -/

/-- The requests in the log. -/
def Outcome.sent {σ : Type} (o : Outcome (σ × List Request)) : List Request := o.peer.2

/-- The second of two logging transports is in the state of the first, with requests logged earlier. -/
def LogFollows {σ : Type} (earlier : List Request) (peer peer' : σ × List Request) : Prop :=
  peer' = (peer.1, earlier ++ peer.2)

section

variable {σ : Type} (transport : Transport σ) (base : String)

/-- Requests are logged behind those that are in the log already. -/
theorem Transport.simulation_recording (earlier : List Request) :
    transport.recording.Simulation transport.recording (LogFollows earlier) := by
  rintro request ⟨s, log⟩ _ rfl
  simp [Transport.recording, LogFollows]

/-- A run adds to the log what it adds to an empty one, and is not changed by it otherwise. -/
theorem runFrom_log (statuses : Statuses) (cases : List Case) (store : Store) (s : σ)
    (earlier : List Request) :
    runFrom transport.recording base statuses cases store (s, earlier) =
      let o := runFrom transport.recording base statuses cases store (s, [])
      { o with peer := (o.peer.1, earlier ++ o.peer.2) } := by
  have hstart : LogFollows earlier (s, []) (s, earlier) := by
    unfold LogFollows
    rw [List.append_nil]
  have halike := runFrom_simulated base (transport.simulation_recording earlier) statuses cases store hstart
  exact Outcome.ext halike.cases halike.events halike.store halike.peer

end

end Probe
