import Mathlib.Data.List.Find
import Probe.Http.Script
import Probe.Proofs.Run.Order
import Probe.Proofs.Run.Turns

/-!
# Dependencies and final statuses

A turn consults the statuses recorded so far. In an order that is accepted these are the final statuses
of all dependencies: identifiers are distinct, dependencies point backwards, and no turn changes an
earlier case. So whether a case is skipped, and for which dependency, can be read off the cases as they
are in the end. Main statements:

* `blocker?_record_eq`: the blocker of a turn, in terms of final statuses.
* `turnAfter_cases`: a turn of a run skips its case for a dependency or executes it.
* `dependency_law`: which cases of a run are skipped, for what, and which are executed.
-/

namespace Probe

/-- Some case of the identifier has not passed. -/
def Unpassed (cases : List Case) (id : String) : Prop :=
  ∃ c ∈ cases, c.id = id ∧ c.status ≠ .passed

instance (cases : List Case) (id : String) : Decidable (Unpassed cases id) :=
  inferInstanceAs (Decidable (∃ c ∈ cases, c.id = id ∧ c.status ≠ .passed))

theorem unpassed_id_iff {cases : List Case} (hnodup : (cases.map Case.id).Nodup) {b : Case}
    (hb : b ∈ cases) : Unpassed cases b.id ↔ b.status ≠ .passed := by
  constructor
  · rintro ⟨c, hc, hid, hstatus⟩
    rwa [← eq_of_mem_of_id_eq hnodup hc hb hid]
  · intro hstatus
    exact ⟨b, hb, rfl, hstatus⟩

/-- Of cases with distinct identifiers among which there is one of every dependency, the recorded
statuses block the first dependency that has not passed, even if more cases come after them. -/
theorem blocker?_record_eq (c : Case) (done later : List Case)
    (hnodup : ((done ++ later).map Case.id).Nodup)
    (hdeps : ∀ d ∈ c.dependencies, d ∈ done.map Case.id) :
    c.blocker? (record .empty done) =
      c.dependencies.find? fun d => decide (Unpassed (done ++ later) d) := by
  unfold Case.blocker?
  apply List.find?_congr
  intro d hd
  obtain ⟨b, hb, rfl⟩ := List.mem_map.1 (hdeps d hd)
  have hdone : (done.map Case.id).Nodup := by
    rw [List.map_append] at hnodup
    exact (List.nodup_append.1 hnodup).1
  have hiff := unpassed_id_iff hnodup (List.mem_append_left later hb)
  rw [get?_record_of_mem .empty done b hdone hb, Bool.eq_iff_iff, decide_eq_true_iff, hiff]
  simp

section

variable {σ : Type} (transport : Transport σ) (base : String)

/-- In an accepted run, the turn of a case skips it for its first dependency that has
not passed in the end, or executes it if there is none. -/
theorem turnAfter_cases (before : List Case) (c : Case) (after : List Case) (store : Store) (s : σ)
    (hv : Order.validate (before ++ c :: after) = .ok ()) :
    let ended := (runCases transport base (before ++ c :: after) store s).cases
    let first := runCases transport base before store s
    let own := turnAfter transport base before c store s
    (∃ d, c.dependencies.find? (fun d => decide (Unpassed ended d)) = some d ∧
      own.cases = [c.skip d] ∧ own.store = first.store ∧ own.peer = first.peer) ∨
    (c.dependencies.find? (fun d => decide (Unpassed ended d)) = none ∧
      own.cases = [(c.execute transport base first.store first.peer).1]) := by
  intro ended first own
  obtain ⟨hnodup, -, hback⟩ := (Order.validate_eq_ok_iff _).1 hv
  obtain ⟨last, hsplit⟩ := runCases_split transport base before c after store s
  have hended : ended = first.cases ++ (own.cases ++ last.cases) := congrArg Outcome.cases hsplit
  have hdeps : ∀ d ∈ c.dependencies, d ∈ first.cases.map Case.id := by
    intro d hd
    rw [ids_runCases]
    exact (hback before c after rfl d hd).resolve_left List.not_mem_nil
  have hids : (ended.map Case.id).Nodup := by
    rw [ids_runCases]
    exact hnodup
  have hblocker := blocker?_record_eq c first.cases (own.cases ++ last.cases) (hended ▸ hids) hdeps
  rw [← hended] at hblocker
  cases hfind : c.dependencies.find? fun d => decide (Unpassed ended d) with
  | some d =>
      left
      have hturn : own = ⟨[c.skip d], [.reported (c.skip d).report], first.store, first.peer⟩ :=
        turn_of_blocker transport base _ c first.store first.peer d (hblocker.trans hfind)
      rw [hturn]
      exact ⟨d, rfl, rfl, rfl, rfl⟩
  | none =>
      right
      have hturn := turn_of_free transport base _ c first.store first.peer (hblocker.trans hfind)
      exact ⟨rfl, congrArg Outcome.cases hturn⟩

/-- In an accepted run of waiting cases every case ends final. A case is skipped exactly if some
dependency is the identifier of a case that has not passed in the end; it is then skipped for the first
such dependency, and its turn leaves variables and transport alone. If all dependencies have passed,
it is executed and ends with a verdict. -/
theorem dependency_law (cases : List Case) (store : Store) (s : σ)
    (hw : ∀ c ∈ cases, c.status = .waiting) (hv : Order.validate cases = .ok ()) :
    let o := runCases transport base cases store s
    (∀ c' ∈ o.cases, c'.status.isFinal = true) ∧
    ∀ before c after, cases = before ++ c :: after →
      let first := runCases transport base before store s
      let own := turnAfter transport base before c store s
      ∃ c' last, o = first.append (own.append last) ∧ own.cases = [c'] ∧
        c' = { c with state := c'.state } ∧
        (c'.status = .skipped ↔ ∃ d ∈ c.dependencies, Unpassed o.cases d) ∧
        (c'.status = .skipped →
          ∃ d, c.dependencies.find? (fun d => decide (Unpassed o.cases d)) = some d ∧
            c'.report.skippedBy = some d ∧ c'.report.message = "Skipping due to dependency " ++ d ∧
            own.store = first.store ∧ own.peer = first.peer) ∧
        ((∀ d ∈ c.dependencies, ∃ b ∈ o.cases, b.id = d ∧ b.status = .passed) →
          c' = (c.execute transport base first.store first.peer).1 ∧ c'.status.IsVerdict) := by
  intro o
  refine ⟨isFinal_of_mem_runFrom transport base _ cases store s, ?_⟩
  rintro before c after rfl first own
  have hc : c.status = .waiting := hw c (by simp)
  have hnodup : (o.cases.map Case.id).Nodup := by
    rw [ids_runCases]
    exact ((Order.validate_eq_ok_iff _).1 hv).nodup
  obtain ⟨last, hsplit⟩ := runCases_split transport base before c after store s
  rcases turnAfter_cases transport base before c after store s hv with
    ⟨d, hfind, hown, hstore, hpeer⟩ | ⟨hfind, hown⟩
  · have hd : d ∈ c.dependencies := List.mem_of_find?_eq_some hfind
    have hunpassed : Unpassed o.cases d := by simpa using List.find?_some hfind
    have hskip := c.skip_of_waiting d hc
    refine ⟨c.skip d, last, hsplit, hown, c.skip_eq d, ?_, ?_, ?_⟩
    · rw [hskip]
      exact iff_of_true rfl ⟨d, hd, hunpassed⟩
    · intro _
      rw [hskip]
      exact ⟨d, hfind, rfl, rfl, hstore, hpeer⟩
    · intro hall
      obtain ⟨b, hb, rfl, hpassed⟩ := hall d hd
      exact absurd hpassed ((unpassed_id_iff hnodup hb).1 hunpassed)
  · have hnone : ∀ d ∈ c.dependencies, ¬ Unpassed o.cases d := by simpa using hfind
    have hverdict := c.isVerdict_execute transport base first.store first.peer hc
    refine ⟨_, last, hsplit, hown, c.execute_eq transport base first.store first.peer, ?_, ?_, ?_⟩
    · refine iff_of_false hverdict.ne_skipped ?_
      rintro ⟨d, hd, hunpassed⟩
      exact hnone d hd hunpassed
    · intro hskipped
      exact absurd hskipped hverdict.ne_skipped
    · intro _
      exact ⟨rfl, hverdict⟩

end

/-- A case that depends on a skipped one is skipped in turn, for that one. -/
theorem dependency_law_chain :
    let a := (Case.new "a" .get "/a").flag "broken"
    let b := (Case.new "b" .get "/b").dependsOn "a"
    let c := ((Case.new "c" .get "/c").dependsOn "b").dependsOn "a"
    let o := runCases Script.transport "http://h" [a, b, c] .empty .empty
    (∀ x ∈ [a, b, c], x.status = .waiting) ∧ Order.validate [a, b, c] = .ok () ∧
      (∀ x ∈ o.cases, x.status.isFinal = true) ∧ Unpassed o.cases "b" ∧
      ∃ c' last, o = (runCases Script.transport "http://h" [a, b] .empty .empty).append
          ((turnAfter Script.transport "http://h" [a, b] c .empty .empty).append last) ∧
        (turnAfter Script.transport "http://h" [a, b] c .empty .empty).cases = [c'] ∧
        c'.status = .skipped ∧ c'.report.skippedBy = some "b" := by
  intro a b c o
  have hw : ∀ x ∈ [a, b, c], x.status = .waiting := by decide
  have hv : Order.validate [a, b, c] = .ok () := by decide +kernel
  have hb : Unpassed o.cases "b" := by decide +kernel
  obtain ⟨hfinal, hlaw⟩ := dependency_law Script.transport "http://h" [a, b, c] .empty .empty hw hv
  obtain ⟨c', last, hsplit, hown, -, hiff, hskipped, -⟩ := hlaw [a, b] c [] rfl
  have hstatus : c'.status = .skipped := hiff.2 ⟨"b", by decide +kernel, hb⟩
  obtain ⟨d, hfind, hby, -, -, -⟩ := hskipped hstatus
  have hd : c.dependencies.find? (fun d => decide (Unpassed o.cases d)) = some "b" := by
    simp [c, Case.new, Case.dependsOn, hb]
  rw [hd] at hfind
  exact ⟨hw, hv, hfinal, hb, c', last, hsplit, hown, hstatus, hfind ▸ hby⟩

end Probe
