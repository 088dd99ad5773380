import Probe.Http.Script
import Probe.Proofs.Run.Simulation
import Probe.Proofs.Run.Statuses
import Probe.Run.Order
import Probe.Run.Summary

/-!
# Leaving out skipped cases

A skipped case sends nothing, calls no hook and leaves the variables alone. For the cases after it, its
status counts as little as none at all: it is not that of a case that passed. So skipped cases may be left
out of a run, as many as one likes, and nothing else changes. Main statements:

* `turn_of_skipped`: the turn of a case that ends up skipped.
* `runFrom_without`: a run without some of its skipped cases.
* `skipped_traceless`: what is the same about it.
-/

namespace Probe

/-- An event that is no report of one of some cases. -/
def Event.isApart (removed : List String) (e : Event) : Bool :=
  e.report?.all fun r => decide (r.id ∉ removed)

/-- An outcome without some cases and their reports. -/
def Outcome.without {σ : Type} (removed : List String) (o : Outcome σ) : Outcome σ :=
  ⟨o.cases.filter fun c => c.id ∉ removed, o.events.filter (Event.isApart removed), o.store, o.peer⟩

namespace Outcome

variable {σ : Type} (removed : List String)

theorem without_append (a b : Outcome σ) :
    (a.append b).without removed = (a.without removed).append (b.without removed) := by
  simp [without, append]

/-- Reports are left out, -/
theorem reports_without (o : Outcome σ) :
    (o.without removed).reports = o.reports.filter fun r => r.id ∉ removed := by
  rw [reports, reports, without, List.filterMap_filter, List.filter_filterMap]
  congr 1
  funext e
  cases e with
  | completed call => rfl
  | reported r => by_cases hr : r.id ∈ removed <;>
      simp [Event.isApart, Event.report?, Option.filter, hr]

/-- but no call of a hook is. -/
theorem calls_without (o : Outcome σ) : (o.without removed).calls = o.calls := by
  rw [calls, calls, without, List.filterMap_filter]
  congr 1
  funext e
  cases e with
  | completed call => rfl
  | reported r => simp [Event.call?]

end Outcome

section

variable {σ : Type} (transport : Transport σ) (base : String)

/-! ## One turn -/

/-- A turn that leaves a waiting case skipped does nothing else. -/
theorem turn_of_skipped (statuses : Statuses) (c : Case) (store : Store) (s : σ) {c' : Case}
    (hw : c.status = .waiting) (h : (turn transport base statuses c store s).cases = [c'])
    (hskipped : c'.status = .skipped) :
    turn transport base statuses c store s = ⟨[c'], [.reported c'.report], store, s⟩ := by
  cases hb : c.blocker? statuses with
  | some d =>
      rw [turn_of_blocker transport base statuses c store s d hb] at h ⊢
      rw [List.singleton_inj.1 h]
  | none =>
      rw [turn_of_free transport base statuses c store s hb] at h
      have hverdict := c.isVerdict_execute transport base store s hw
      rw [List.singleton_inj.1 h] at hverdict
      exact absurd hskipped hverdict.ne_skipped

/-- Nothing is left of the turn of a skipped case that is left out. -/
theorem without_of_skipped (removed : List String) (c' : Case) (store : Store) (s : σ)
    (hc : c'.id ∈ removed) (o : Outcome σ) :
    (Outcome.append ⟨[c'], [.reported c'.report], store, s⟩ o).without removed = o.without removed := by
  have hreport : c'.report.id ∈ removed := hc
  simp [Outcome.without, Outcome.append, Event.isApart, Event.report?, hc, hreport]

/-- Everything is left of the turn of a case that is not left out. -/
theorem without_turn (removed : List String) (statuses : Statuses) (c : Case) (store : Store) (s : σ)
    (hc : c.id ∉ removed) :
    (turn transport base statuses c store s).without removed = turn transport base statuses c store s := by
  obtain ⟨c', hcases, hends, hreports⟩ := exists_turn transport base statuses c store s
  have hid : c'.id ∉ removed := by rwa [hends.id_eq]
  have hevents : (turn transport base statuses c store s).events.filter (Event.isApart removed) =
      (turn transport base statuses c store s).events := by
    rw [List.filter_eq_self]
    intro e he
    cases e with
    | completed call => rfl
    | reported r =>
        -- The only report of the turn is that of the case.
        have hr : r ∈ (turn transport base statuses c store s).reports :=
          List.mem_filterMap.2 ⟨_, he, rfl⟩
        rw [hreports, List.mem_singleton] at hr
        have hr' : r.id ∉ removed := by rwa [hr]
        simp [Event.isApart, Event.report?, hr']
  have hkept : (turn transport base statuses c store s).cases.filter (fun c => c.id ∉ removed) =
      (turn transport base statuses c store s).cases := by
    rw [hcases]
    simp [hid]
  simp only [Outcome.without, hkept, hevents]

/-! ## All turns -/

/-- A run without some of its skipped cases. The statuses that it begins with may be others, as long as
they are alike on the cases before it. -/
theorem runFrom_without (removed : List String) (a b : Statuses) (cases : List Case) (store : Store)
    (s : σ) (hw : ∀ c ∈ cases, c.status = .waiting) (hnodup : (cases.map Case.id).Nodup)
    (hfresh : ∀ c ∈ cases, a.get? c.id ≠ some .passed) (halike : ∀ d, PassAlike a b d)
    (hskipped : ∀ c' ∈ (runFrom transport base a cases store s).cases, c'.id ∈ removed →
      c'.status = .skipped) :
    runFrom transport base b (cases.filter fun c => c.id ∉ removed) store s =
      (runFrom transport base a cases store s).without removed := by
  induction cases generalizing a b store s with
  | nil => rfl
  | cons c rest ih =>
      obtain ⟨hc, hrest⟩ := List.nodup_cons.1 hnodup
      obtain ⟨hwc, hwrest⟩ := List.forall_mem_cons.1 hw
      obtain ⟨c', hturn, hends, -⟩ := exists_turn transport base a c store s
      have hrun : runFrom transport base a (c :: rest) store s =
          (turn transport base a c store s).append
            (runFrom transport base (a.insert c'.id c'.status) rest
              (turn transport base a c store s).store (turn transport base a c store s).peer) := by
        rw [runFrom, hturn]
        rfl
      -- The identifier of the case does not occur again, so that no later case is recorded.
      have hfresh' : ∀ e ∈ rest, (a.insert c'.id c'.status).get? e.id ≠ some .passed := by
        intro e he
        have hne : e.id ≠ c'.id := by
          rw [hends.id_eq]
          exact fun heq => hc (heq ▸ List.mem_map_of_mem he)
        rw [Table.get?_insert, if_neg hne]
        exact hfresh e (List.mem_cons_of_mem c he)
      rw [hrun] at hskipped ⊢
      have hskipped' := fun e he => hskipped e (List.mem_append_right _ he)
      by_cases hremoved : c.id ∈ removed
      · have hstatus : c'.status = .skipped := by
          apply hskipped c'
          · rw [Outcome.append, hturn]
            exact List.mem_cons_self
          · rwa [hends.id_eq]
        have hquiet := turn_of_skipped transport base a c store s hwc hturn hstatus
        -- Without the case nothing is recorded of it, which is as good as that it was skipped.
        have hunpassed : a.get? c'.id ≠ some .passed := by
          rw [hends.id_eq]
          exact hfresh c List.mem_cons_self
        have halike' : ∀ d, PassAlike (a.insert c'.id c'.status) b d :=
          fun d => (halike d).insert_left hunpassed (by simp [hstatus])
        have hrest' := ih _ b store s hwrest hrest hfresh' halike' (by simpa [hquiet] using hskipped')
        rw [List.filter_cons_of_neg (by simpa using hremoved), hrest', hquiet]
        exact (without_of_skipped removed c' store s (by rwa [hends.id_eq]) _).symm
      · -- The turn is the same in both runs, and so is the status that is recorded.
        have halike' : ∀ d, PassAlike (a.insert c'.id c'.status) (b.insert c'.id c'.status) d :=
          fun d => (halike d).insert c'.id c'.status
        have hsame : turn transport base b c store s = turn transport base a c store s :=
          turn_congr transport base c store s fun d _ => (halike d).symm
        have hrest' := ih _ _ _ _ hwrest hrest hfresh' halike' hskipped'
        rw [List.filter_cons_of_pos (by simpa using hremoved), runFrom, hsame, hturn,
          Outcome.without_append, without_turn transport base removed a c store s hremoved, ← hrest']
        rfl

/-- Of a run of waiting cases with distinct identifiers, any cases that end up skipped may be left out:
the others come to the same reports, the same hooks are called, the same is sent, and the variables are
the same in the end. The order need not be one that is accepted, neither with the cases nor without. -/
theorem skipped_traceless (cases : List Case) (store : Store) (s : σ) (removed : List String)
    (hw : ∀ c ∈ cases, c.status = .waiting) (hnodup : (cases.map Case.id).Nodup) :
    let run := fun cases => runCases transport.recording base cases store (s, [])
    let o := run cases
    (∀ c' ∈ o.cases, c'.id ∈ removed → c'.status = .skipped) →
    let o' := run (cases.filter fun c => c.id ∉ removed)
    o'.cases = (o.cases.filter fun c => c.id ∉ removed) ∧
      o'.reports = (o.reports.filter fun r => r.id ∉ removed) ∧
      o'.calls = o.calls ∧ o'.sent = o.sent ∧ o'.peer.1 = o.peer.1 ∧ o'.store = o.store := by
  intro run o hskipped o'
  have hrun : o' = o.without removed :=
    runFrom_without transport.recording base removed .empty .empty cases store (s, []) hw hnodup
      (by simp) (PassAlike.refl .empty) hskipped
  rw [hrun]
  exact ⟨rfl, Outcome.reports_without removed o, Outcome.calls_without removed o, rfl, rfl, rfl⟩

end

/-- Of a chain of skipped cases the middle one is left out: the last one is still skipped for it, although
no case of its identifier is left. -/
theorem skipped_traceless_chain :
    let a := (Case.new "a" .get "/a").onComplete ⟨["USER"]⟩
    let b := (Case.new "b" .get "/b").dependsOn "a"
    let c := ((Case.new "c" .get "/c").dependsOn "b").dependsOn "a"
    let run := fun cases => runCases Script.transport.recording "http://h" cases .empty (Script.empty, [])
    let o := run [a, b, c]
    let o' := run [a, c]
    (∀ x ∈ [a, b, c], x.status = .waiting) ∧ ([a, b, c].map Case.id).Nodup ∧
      (∀ c' ∈ o.cases, c'.id ∈ ["b"] → c'.status = .skipped) ∧
      Order.validate [a, b, c] = .ok () ∧ Order.validate [a, c] = .error (.undeclared "c" "b") ∧
      o'.reports = (o.reports.filter fun r => r.id ∉ ["b"]) ∧
      o'.reports.map Report.skippedBy = [none, some "b"] ∧
      o'.calls = o.calls ∧ o.calls.length = 1 ∧ o'.sent = o.sent ∧ o'.store = o.store := by
  intro a b c run o o'
  have hw : ∀ x ∈ [a, b, c], x.status = .waiting := by decide
  have hnodup : ([a, b, c].map Case.id).Nodup := by decide
  have hskipped : ∀ c' ∈ o.cases, c'.id ∈ ["b"] → c'.status = .skipped := by decide +kernel
  obtain ⟨-, hreports, hcalls, hsent, -, hstore⟩ :=
    skipped_traceless Script.transport "http://h" [a, b, c] .empty .empty ["b"] hw hnodup hskipped
  exact ⟨hw, hnodup, hskipped, by decide +kernel, by decide +kernel, hreports, by decide +kernel, hcalls,
    by decide +kernel, hsent, hstore⟩

end Probe
