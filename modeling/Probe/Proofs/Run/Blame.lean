import Mathlib.Logic.Relation
import Mathlib.Logic.Relator
import Probe.Proofs.Run.Dependency
import Probe.Run.Summary

/-!
# Blame

A skipped case names the dependency it was skipped for. Going from skipped cases to the cases that
they name leads to strictly earlier cases, so that it ends; and as no named case has passed, it ends at
a case that failed or met an error. Main statements:

* `settled_runCases`: what an accepted run makes of its cases.
* `Settled.exists_blameEnds`: every case that has not passed leads to a failure or an error.
* `blame_chain`: the chains of a run, and what they say of its summary.
-/

namespace Probe

/-- Case `i` of a list was skipped for case `j`. -/
def SkippedFor (cases : List Case) (i j : Nat) : Prop :=
  ∃ c b, cases[i]? = some c ∧ cases[j]? = some b ∧ c.status = .skipped ∧
    c.report.skippedBy = some b.id

/-- Going from skipped cases to those that they were skipped for leads from case `i` to case `j`, and no
further. -/
def BlameEnds (cases : List Case) (i j : Nat) : Prop :=
  Relation.ReflTransGen (SkippedFor cases) i j ∧ ∀ k, ¬ SkippedFor cases j k

/-- Cases as an accepted run leaves them: of distinct identifiers, final, and skipped only for earlier
cases that have not passed. -/
structure Settled (cases : List Case) : Prop where
  nodup : (cases.map Case.id).Nodup
  isFinal : ∀ c ∈ cases, c.state.isFinal = true
  earlier : ∀ (i : Nat) (c : Case), cases[i]? = some c → c.status = .skipped →
    ∃ (j : Nat) (b : Case), j < i ∧ cases[j]? = some b ∧ c.report.skippedBy = some b.id ∧
      b.status ≠ .passed

theorem settled_runCases {σ : Type} (transport : Transport σ) (base : String) (cases : List Case)
    (store : Store) (s : σ) (hw : ∀ c ∈ cases, c.status = .waiting)
    (hv : Order.validate cases = .ok ()) :
    Settled (runCases transport base cases store s).cases := by
  obtain ⟨hnodup, -, hback⟩ := (Order.validate_eq_ok_iff _).1 hv
  have hids : ((runCases transport base cases store s).cases.map Case.id).Nodup := by
    rw [ids_runCases]
    exact hnodup
  refine ⟨hids, isFinal_of_mem_runFrom transport base _ cases store s, ?_⟩
  intro i c' hi hskipped
  obtain ⟨before, c, after, rfl, rfl, hown⟩ := exists_turnAfter transport base cases store s hi
  have hc : c.status = .waiting := hw c (by simp)
  rcases turnAfter_cases transport base before c after store s hv with
    ⟨d, hfind, hcases, -, -⟩ | ⟨-, hcases⟩ <;> rw [hown, List.singleton_inj] at hcases
  · -- The case was skipped for `d`, which is the identifier of an earlier case.
    have hdep : d ∈ (runCases transport base before store s).cases.map Case.id := by
      rw [ids_runCases]
      exact (hback before c after rfl d (List.mem_of_find?_eq_some hfind)).resolve_left List.not_mem_nil
    obtain ⟨b, hb, rfl⟩ := List.mem_map.1 hdep
    obtain ⟨j, hlt, hj⟩ := exists_getElem?_of_mem transport base before (c :: after) store s hb
    have hunpassed := List.find?_some hfind
    rw [decide_eq_true_iff, unpassed_id_iff hids (List.mem_of_getElem? hj)] at hunpassed
    refine ⟨j, b, hlt, hj, ?_, hunpassed⟩
    rw [hcases, c.skip_of_waiting b.id hc]
    rfl
  · -- The case was executed, so that it was not skipped at all.
    have hverdict := c.isVerdict_execute transport base (runCases transport base before store s).store
      (runCases transport base before store s).peer hc
    rw [← hcases] at hverdict
    exact absurd hskipped hverdict.ne_skipped

namespace Settled

variable {cases : List Case}

/-- A position is determined by the identifier of the case that is there. -/
theorem eq_of_id_eq (h : Settled cases) {i j : Nat} {a b : Case} (ha : cases[i]? = some a)
    (hb : cases[j]? = some b) (hid : a.id = b.id) : i = j := by
  have hi : i < (cases.map Case.id).length := by
    rw [List.length_map]
    exact (List.getElem?_eq_some_iff.1 ha).1
  rw [← List.getElem?_inj hi h.nodup, List.getElem?_map, List.getElem?_map, ha, hb]
  exact congrArg some hid

theorem lt_of_skippedFor (h : Settled cases) {i j : Nat} (hij : SkippedFor cases i j) : j < i := by
  obtain ⟨c, b, hc, hb, hskipped, hby⟩ := hij
  obtain ⟨k, a, hlt, ha, hba, -⟩ := h.earlier i c hc hskipped
  rw [hby, Option.some.injEq] at hba
  rwa [h.eq_of_id_eq hb ha hba]

/-- A case is skipped for one case at most. -/
theorem rightUnique (h : Settled cases) : Relator.RightUnique (SkippedFor cases) := by
  rintro i j k ⟨c, a, hc, ha, -, hca⟩ ⟨c', b, hc', hb, -, hcb⟩
  rw [hc, Option.some.injEq] at hc'
  subst hc'
  rw [hca, Option.some.injEq] at hcb
  exact h.eq_of_id_eq ha hb hcb

/-- Every skipped case is skipped for a case that has not passed. -/
theorem exists_skippedFor (h : Settled cases) {i : Nat} {c : Case} (hc : cases[i]? = some c)
    (hskipped : c.status = .skipped) :
    ∃ (j : Nat) (b : Case), j < i ∧ SkippedFor cases i j ∧ cases[j]? = some b ∧
      b.status ≠ .passed := by
  obtain ⟨j, b, hlt, hj, hby, hunpassed⟩ := h.earlier i c hc hskipped
  exact ⟨j, b, hlt, ⟨c, b, hc, hj, hskipped, hby⟩, hj, hunpassed⟩

/-- Every case that has not passed leads to one that failed or met an error. -/
theorem exists_blameEnds (h : Settled cases) (i : Nat) (c : Case) (hc : cases[i]? = some c)
    (hunpassed : c.status ≠ .passed) :
    ∃ (j : Nat) (b : Case), BlameEnds cases i j ∧ cases[j]? = some b ∧
      (b.status = .failed ∨ b.status = .error) := by
  induction i using Nat.strongRecOn generalizing c with
  | ind i ih =>
      by_cases hskipped : c.status = .skipped
      · obtain ⟨j, b, hlt, hij, hj, hb⟩ := h.exists_skippedFor hc hskipped
        obtain ⟨k, e, ⟨hjk, hend⟩, hk, he⟩ := ih j hlt b hj hb
        exact ⟨k, e, ⟨.head hij hjk, hend⟩, hk, he⟩
      · refine ⟨i, c, ⟨.refl, ?_⟩, hc, ?_⟩
        · rintro k ⟨c', b, hc', -, hskipped', -⟩
          rw [hc, Option.some.injEq] at hc'
          subst hc'
          exact hskipped hskipped'
        · have hfinal := (Status.isFinal_iff _).1 (h.isFinal c (List.mem_of_getElem? hc))
          exact (hfinal.resolve_right hskipped).resolve_left hunpassed

/-- A chain has one end. -/
theorem eq_of_blameEnds (h : Settled cases) {i j k : Nat} (hj : BlameEnds cases i j)
    (hk : BlameEnds cases i k) : j = k := by
  rcases Relation.ReflTransGen.total_of_right_unique h.rightUnique hj.1 hk.1 with hjk | hkj
  · rcases hjk.cases_head with rfl | ⟨l, hl, -⟩
    · rfl
    · exact absurd hl (hj.2 l)
  · rcases hkj.cases_head with rfl | ⟨l, hl, -⟩
    · rfl
    · exact absurd hl (hk.2 l)

end Settled

section

variable {σ : Type} (transport : Transport σ) (base : String)

theorem mem_summary_runCases (cases : List Case) (store : Store) (s : σ) {c : Case}
    (hc : c ∈ (runCases transport base cases store s).cases) (hloud : c.silent = false) :
    c.report ∈ (runCases transport base cases store s).summary.reports := by
  have hreports : (runCases transport base cases store s).reports = _ :=
    reports_runFrom transport base .empty cases store s
  rw [Outcome.summary, hreports, List.mem_filter]
  exact ⟨List.mem_map_of_mem hc, by simp [Case.report, hloud]⟩

/-- In an accepted run of waiting cases, a skipped case was skipped for exactly one case, which is
earlier. Going on in this way ends at exactly one case, which failed or met an error, and which is
silent if the summary says that all passed. So if no case fails or meets an error, all pass. -/
theorem blame_chain (cases : List Case) (store : Store) (s : σ)
    (hw : ∀ c ∈ cases, c.status = .waiting) (hv : Order.validate cases = .ok ()) :
    let o := runCases transport base cases store s
    (∀ i j, SkippedFor o.cases i j → j < i) ∧
    (∀ (i : Nat) (c : Case), o.cases[i]? = some c → c.status = .skipped →
      (∃! j, SkippedFor o.cases i j) ∧
      ∃ (j : Nat) (b : Case), BlameEnds o.cases i j ∧ (∀ k, BlameEnds o.cases i k → k = j) ∧
        o.cases[j]? = some b ∧ (b.status = .failed ∨ b.status = .error) ∧
        (o.summary.allPassed = true → b.silent = true)) ∧
    ((∀ c ∈ o.cases, c.status ≠ .failed ∧ c.status ≠ .error) →
      ∀ c ∈ o.cases, c.status = .passed) := by
  intro o
  have hsettled : Settled o.cases := settled_runCases transport base cases store s hw hv
  refine ⟨fun i j hij => hsettled.lt_of_skippedFor hij, ?_, ?_⟩
  · intro i c hc hskipped
    obtain ⟨j, -, -, hij, -, -⟩ := hsettled.exists_skippedFor hc hskipped
    have hunpassed : c.status ≠ .passed := by simp [hskipped]
    obtain ⟨e, b, hend, he, hb⟩ := hsettled.exists_blameEnds i c hc hunpassed
    refine ⟨⟨j, hij, fun k hik => hsettled.rightUnique hik hij⟩, e, b, hend,
      fun k hk => hsettled.eq_of_blameEnds hk hend, he, hb, ?_⟩
    intro hall
    by_cases hsilent : b.silent = true
    · exact hsilent
    · have hmem := mem_summary_runCases transport base cases store s (List.mem_of_getElem? he)
        (Bool.eq_false_iff.2 hsilent)
      obtain ⟨hfailed, herror⟩ := (Summary.allPassed_iff _).1 hall b.report hmem
      rcases hb with hb | hb
      · exact absurd hb hfailed
      · exact absurd hb herror
  · intro hall c hc
    by_cases hpassed : c.status = .passed
    · exact hpassed
    · obtain ⟨i, hi⟩ := List.mem_iff_getElem?.1 hc
      obtain ⟨j, b, -, hj, hb⟩ := hsettled.exists_blameEnds i c hi hpassed
      obtain ⟨hfailed, herror⟩ := hall b (List.mem_of_getElem? hj)
      rcases hb with hb | hb
      · exact absurd hb hfailed
      · exact absurd hb herror

end

/-- A silent case that meets an error is the end of the chain of a case that is skipped two steps
later, although the summary says that all passed. -/
theorem blame_chain_silent :
    let a := ((Case.new "a" .get "/a").flag "broken").silence
    let b := (Case.new "b" .get "/b").dependsOn "a"
    let c := (Case.new "c" .get "/c").dependsOn "b"
    let o := runCases Script.transport "http://h" [a, b, c] .empty .empty
    (∀ x ∈ [a, b, c], x.status = .waiting) ∧ Order.validate [a, b, c] = .ok () ∧
      o.summary.allPassed = true ∧
      ∃ (c' : Case) (j : Nat) (e : Case), o.cases[2]? = some c' ∧ c'.status = .skipped ∧
        BlameEnds o.cases 2 j ∧ o.cases[j]? = some e ∧ e.silent = true := by
  intro a b c o
  have hw : ∀ x ∈ [a, b, c], x.status = .waiting := by decide
  have hv : Order.validate [a, b, c] = .ok () := by decide +kernel
  have hall : o.summary.allPassed = true := by decide +kernel
  obtain ⟨-, hchain, -⟩ := blame_chain Script.transport "http://h" [a, b, c] .empty .empty hw hv
  have hstatus : (o.cases.map Case.status)[2]? = some .skipped := by decide +kernel
  rw [List.getElem?_map, Option.map_eq_some_iff] at hstatus
  obtain ⟨c', hc', hskipped⟩ := hstatus
  obtain ⟨-, j, e, hend, -, he, -, hsilent⟩ := hchain 2 c' hc' hskipped
  exact ⟨hw, hv, hall, c', j, e, hc', hskipped, hend, he, hsilent hall⟩

end Probe
