import Probe.Http.Script
import Probe.Proofs.Case.References
import Probe.Proofs.Run.Captures
import Probe.Proofs.Run.Simulation
import Probe.Proofs.Run.Statuses

/-!
# What a run reads

A turn depends on the variables only by those that its case reads: with variables that agree on these, it
comes to the same case, sends the same and captures the same. What it captures it writes into either
store, so that they still agree on what the later cases read. So a run sees nothing of its variables but
those that its cases refer to, and hands on unchanged what it does not capture to. Main statements:

* `turn_eq_of_alike`: what a turn depends on.
* `runFrom_reads`: runs from stores that agree on what the cases read.
* `reads_law`: what such runs have in common, and where their variables may differ in the end.
-/

namespace Probe

/-! ## Requests of a turn -/

/-- The requests that the turn of a case sends: none, unless the case is executed. -/
def turnSends (base : String) (statuses : Statuses) (c : Case) (store : Store) : List Request :=
  match c.blocker? statuses with
  | some _ => []
  | none => c.sends base store

section

variable {σ : Type} (transport : Transport σ) (base : String)

theorem peer_turn (statuses : Statuses) (c : Case) (store : Store) (s : σ) :
    (turn transport base statuses c store s).peer =
      transport.after (turnSends base statuses c store) s := by
  unfold turnSends
  cases hb : c.blocker? statuses with
  | some d =>
      rw [turn_of_blocker transport base statuses c store s d hb]
      rfl
  | none =>
      rw [turn_of_free transport base statuses c store s hb]
      exact c.peer_execute transport base store s

/-! ## What a turn depends on -/

section

variable (c : Case) {a b : Statuses} {store store' : Store}
  (halike : ∀ d ∈ c.dependencies, PassAlike a b d) (hread : store.AgreeOn c.references store')

include halike hread

theorem turnSends_congr : turnSends base b c store' = turnSends base a c store := by
  rw [turnSends, turnSends, c.blocker?_congr halike, c.sends_congr hread base]

/-- A turn depends only on which dependencies of its case have passed, on the variables that the case
reads, and on how its request is answered. -/
theorem turn_eq_of_alike (s s' : σ)
    (hanswer : ∀ r ∈ turnSends base a c store, (transport.send r s').1 = (transport.send r s).1) :
    (turn transport base b c store' s').cases = (turn transport base a c store s).cases ∧
      turnCaptures transport base b c store' s' = turnCaptures transport base a c store s := by
  have hblocker := c.blocker?_congr halike
  cases hb : c.blocker? a with
  | some d =>
      have hb' := hblocker.symm.trans hb
      rw [turn_of_blocker transport base a c store s d hb, turn_of_blocker transport base b c store' s' d hb']
      simp [turnCaptures, hb, hb']
  | none =>
      have hb' := hblocker.symm.trans hb
      have hsends : turnSends base a c store = c.sends base store := by rw [turnSends, hb]
      rw [hsends] at hanswer
      rw [turn_of_free transport base a c store s hb, turn_of_free transport base b c store' s' hb']
      simp only [turnCaptures, hb, hb', c.execute_congr hread transport base s s' hanswer,
        c.captures_congr hread transport base s s' hanswer, and_self]

end

/-! ## All turns -/

/-- The variables that cases read: those that their fields refer to, and the token if one is guarded. -/
def readsOf (cases : List Case) : List String :=
  cases.flatMap Case.references

/-- Runs from stores that agree on what the cases read come to the same, send the same and capture the
same. -/
theorem runFrom_reads (statuses : Statuses) (cases : List Case) {store store' : Store} (s : σ)
    (h : store.AgreeOn (readsOf cases) store') :
    (runFrom transport base statuses cases store' s).cases =
        (runFrom transport base statuses cases store s).cases ∧
      (runFrom transport base statuses cases store' s).peer =
        (runFrom transport base statuses cases store s).peer ∧
      logFrom transport base statuses cases store' s = logFrom transport base statuses cases store s := by
  induction cases generalizing statuses store store' s with
  | nil => exact ⟨rfl, rfl, rfl⟩
  | cons c rest ih =>
      have hown : store.AgreeOn c.references store' := h.subset (List.subset_append_left _ _)
      have hrest : store.AgreeOn (readsOf rest) store' := h.subset (List.subset_append_right _ _)
      have halike : ∀ d ∈ c.dependencies, PassAlike statuses statuses d := fun d _ => .refl statuses d
      have hturn := turn_eq_of_alike transport base c halike hown s s fun _ _ => rfl
      have hcases := hturn.1
      have hcaptures := hturn.2
      have hpeer : (turn transport base statuses c store' s).peer =
          (turn transport base statuses c store s).peer := by
        rw [peer_turn, peer_turn, turnSends_congr base c halike hown]
      -- Both stores get the same captures, and still agree on what the rest reads.
      have hstore : (turn transport base statuses c store s).store.AgreeOn (readsOf rest)
          (turn transport base statuses c store' s).store := by
        rw [store_turn, store_turn, hcaptures]
        exact hrest.insertAll _
      have hlater := ih (record statuses (turn transport base statuses c store s).cases)
        (turn transport base statuses c store s).peer hstore
      simp only [runFrom, logFrom, Outcome.append]
      rw [hcases, hpeer, hcaptures, hlater.1, hlater.2.1, hlater.2.2]
      exact ⟨rfl, rfl, rfl⟩

/-- Two stores that agree on all that some cases read: a run of the cases comes to the same reports and the
same requests from either, and makes the same captures. In the end the stores agree on all that is read and
on all that was captured to, and every variable that was not captured to is as it was in either store. -/
theorem reads_law (cases : List Case) {store store' : Store} (s : σ)
    (h : store.AgreeOn (readsOf cases) store') :
    let run := fun store => runCases transport.recording base cases store (s, [])
    let o := run store
    let o' := run store'
    let log := captureLog transport.recording base cases store (s, [])
    o'.reports = o.reports ∧ o'.cases = o.cases ∧ o'.sent = o.sent ∧ o'.peer.1 = o.peer.1 ∧
    captureLog transport.recording base cases store' (s, []) = log ∧
    (∀ w ∈ log, CaptureTarget transport.recording base cases store (s, []) w.1) ∧
    (∀ name, name ∈ readsOf cases ∨ name ∈ log.map Prod.fst →
      o'.store.get? name = o.store.get? name) ∧
    (∀ name, name ∉ log.map Prod.fst →
      o.store.get? name = store.get? name ∧ o'.store.get? name = store'.get? name) := by
  intro run o o' log
  have hruns := runFrom_reads transport.recording base .empty cases (s, []) h
  have hcases : o'.cases = o.cases := hruns.1
  have hpeer : o'.peer = o.peer := hruns.2.1
  have hlog : captureLog transport.recording base cases store' (s, []) = log := hruns.2.2
  have hreports : o'.reports = o.reports := by
    have hown : o.reports = o.cases.map Case.report :=
      reports_runFrom transport.recording base .empty cases store (s, [])
    have hother : o'.reports = o'.cases.map Case.report :=
      reports_runFrom transport.recording base .empty cases store' (s, [])
    rw [hother, hown, hcases]
  -- Both runs write the log over what they began with.
  have hstore : o.store = store.insertAll log := store_runCases transport.recording base cases store (s, [])
  have hstore' : o'.store = store'.insertAll log := by
    rw [← hlog]
    exact store_runCases transport.recording base cases store' (s, [])
  refine ⟨hreports, hcases, congrArg Prod.snd hpeer, congrArg Prod.fst hpeer, hlog, ?_, ?_, ?_⟩
  · intro w hw
    exact (executed_of_mem_captureLog transport.recording base cases store (s, []) hw).1
  · intro name hname
    rw [hstore, hstore', Store.get?_insertAll, Store.get?_insertAll]
    rcases hname with hread | hwritten
    · rw [h name hread]
    · cases hlast : log.last? name with
      | none => exact absurd hwritten (Writes.last?_eq_none_iff.1 hlast)
      | some value => rfl
  · intro name hname
    have hlast : log.last? name = none := Writes.last?_eq_none_iff.2 hname
    constructor
    · rw [hstore, Store.get?_insertAll, hlast, Option.none_or]
    · rw [hstore', Store.get?_insertAll, hlast, Option.none_or]

end

/-- Two stores differ in a variable that is captured to before it counts and in one that no case refers to.
The first case captures it, and the second one sends the token that was captured and compares a role. -/
theorem reads_law_login :
    let token : Field := ("token", .parse ">>TOKEN")
    let id : Field := ("id", .parse ">>ID")
    let login := (Case.new "login" .post "/login").withExpected ⟨[token, id]⟩
    let me := (Case.new "me" .get "/me").guard.withExpected ⟨[("role", .parse "{ROLE}")]⟩
    let body : Json.Value := .object [("id", .number (.integer 7)), ("token", .string "abc")]
    let peer := (Script.empty.append (.post, "/login") (.ok (.ofJson 200 body))).append (.get, "/me")
      (.ok (.ofJson 200 (.object [("role", .string "admin")])))
    let store := ((Store.set .empty "ROLE" "admin").set "ID" "1").set "NOTE" "here"
    let store' := (Store.set .empty "ROLE" "admin").set "ID" "2"
    let run := fun store => runCases Script.transport.recording "http://h" [login, me] store (peer, [])
    let log := captureLog Script.transport.recording "http://h" [login, me] store (peer, [])
    store.AgreeOn (readsOf [login, me]) store' ∧
      (run store).cases.map Case.status = [.passed, .passed] ∧ (run store).sent.length = 2 ∧
      (run store').reports = (run store).reports ∧ (run store').sent = (run store).sent ∧
      log = [("TOKEN", "abc"), ("ID", "7")] ∧
      (run store').store.get? "ID" = (run store).store.get? "ID" ∧
      (run store).store.get? "NOTE" = some "here" ∧ (run store').store.get? "NOTE" = none := by
  intro token id login me body peer store store' run log
  have hreads : readsOf [login, me] = ["ROLE", "TOKEN"] := by decide +kernel
  have hagree : store.AgreeOn (readsOf [login, me]) store' := by
    rw [hreads]
    show ∀ name ∈ ["ROLE", "TOKEN"], store.get? name = store'.get? name
    decide +kernel
  have hlog : log = [("TOKEN", "abc"), ("ID", "7")] := by decide +kernel
  obtain ⟨hreports, -, hsent, -, -, -, hsame, hown⟩ :=
    reads_law Script.transport "http://h" [login, me] peer hagree
  have hid : "ID" ∈ log.map Prod.fst := by
    rw [hlog]
    decide
  have hnote : "NOTE" ∉ log.map Prod.fst := by
    rw [hlog]
    decide
  exact ⟨hagree, by decide +kernel, by decide +kernel, hreports, hsent, hlog, hsame "ID" (.inr hid),
    (hown "NOTE" hnote).1, (hown "NOTE" hnote).2⟩

end Probe
