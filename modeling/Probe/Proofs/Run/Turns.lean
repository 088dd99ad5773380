import Mathlib.Data.List.Forall2
import Mathlib.Data.List.Nodup
import Probe.Proofs.Case.Execution
import Probe.Run.Schedule

/-!
# The turns of a run

Every case of a run has one turn, which changes nothing of it but its state and leaves it final. A run
splits at each turn into what was before it, the turn, and what comes after it; the statuses recorded
before a turn are those of the earlier cases. Main statements:

* `exists_turn`: what one turn makes of a case.
* `forall₂_runFrom`: what a run makes of its cases.
* `runCases_split`: a run at the turn of one case.
* `get?_record_of_mem`: what is recorded of a case.
-/

namespace Probe

/-- What a turn makes of a case. -/
structure Case.EndsAs (c c' : Case) : Prop where
  eq : c' = { c with state := c'.state }
  isFinal : c'.state.isFinal = true

theorem Case.EndsAs.id_eq {c c' : Case} (h : c.EndsAs c') : c'.id = c.id := by
  rw [h.eq]

/-- A list is what is before a position, what is there, and what is behind it. -/
theorem exists_split_of_getElem? {α : Type} {l : List α} {i : Nat} {a : α} (h : l[i]? = some a) :
    ∃ before after, l = before ++ a :: after ∧ before.length = i := by
  obtain ⟨hi, rfl⟩ := List.getElem?_eq_some_iff.1 h
  refine ⟨l.take i, l.drop (i + 1), ?_, List.length_take_of_le (Nat.le_of_lt hi)⟩
  rw [List.getElem_cons_drop, List.take_append_drop]

section

variable {σ : Type} (transport : Transport σ) (base : String)

/-! ## One turn -/

theorem turn_of_blocker (statuses : Statuses) (c : Case) (store : Store) (s : σ) (d : String)
    (h : c.blocker? statuses = some d) :
    turn transport base statuses c store s =
      ⟨[c.skip d], [.reported (c.skip d).report], store, s⟩ := by
  simp [turn, h]

theorem turn_of_free (statuses : Statuses) (c : Case) (store : Store) (s : σ)
    (h : c.blocker? statuses = none) :
    turn transport base statuses c store s =
      let ended := c.execute transport base store s
      ⟨[ended.1],
        ((ended.1.hookCall? ended.2.1).map Event.completed).toList ++ [.reported ended.1.report],
        ended.2.1, ended.2.2⟩ := by
  simp [turn, h]

/-- A turn is had by one case, which is final after it and is reported as it is then. -/
theorem exists_turn (statuses : Statuses) (c : Case) (store : Store) (s : σ) :
    ∃ c', (turn transport base statuses c store s).cases = [c'] ∧ c.EndsAs c' ∧
      (turn transport base statuses c store s).reports = [c'.report] := by
  cases hb : c.blocker? statuses with
  | some d =>
      rw [turn_of_blocker transport base statuses c store s d hb]
      exact ⟨c.skip d, rfl, ⟨c.skip_eq d, c.isFinal_skip d⟩, rfl⟩
  | none =>
      rw [turn_of_free transport base statuses c store s hb]
      refine ⟨_, rfl, ⟨c.execute_eq transport base store s, c.isFinal_execute transport base store s⟩, ?_⟩
      simp only [Outcome.reports, List.filterMap_append]
      cases (c.execute transport base store s).1.hookCall? _ <;> rfl

/-! ## All turns -/

theorem Outcome.reports_append (a b : Outcome σ) : (a.append b).reports = a.reports ++ b.reports := by
  simp [Outcome.reports, Outcome.append]

theorem Outcome.calls_append (a b : Outcome σ) : (a.append b).calls = a.calls ++ b.calls := by
  simp [Outcome.calls, Outcome.append]

/-- Events that are changed one by one: what is seen of them changes one by one. -/
theorem Event.filterMap_map_of_view {α : Type} (view : Event → Option α) (change : Event → Event)
    (change' : α → α) (h : ∀ e, view (change e) = (view e).map change') (events : List Event) :
    (events.map change).filterMap view = (events.filterMap view).map change' := by
  rw [List.filterMap_map, List.map_filterMap]
  exact congrArg (fun f => List.filterMap f events) (funext h)

/-- A run makes of every case what its turn makes of it. -/
theorem forall₂_runFrom (statuses : Statuses) (cases : List Case) (store : Store) (s : σ) :
    List.Forall₂ Case.EndsAs cases (runFrom transport base statuses cases store s).cases := by
  induction cases generalizing statuses store s with
  | nil => exact .nil
  | cons c rest ih =>
      obtain ⟨c', hcases, hends, -⟩ := exists_turn transport base statuses c store s
      simp only [runFrom, Outcome.append, hcases]
      exact .cons hends (ih _ _ _)

theorem ids_runFrom (statuses : Statuses) (cases : List Case) (store : Store) (s : σ) :
    (runFrom transport base statuses cases store s).cases.map Case.id = cases.map Case.id := by
  have h := (forall₂_runFrom transport base statuses cases store s).imp fun _ _ h => h.id_eq.symm
  rw [← List.forall₂_map_right_iff, ← List.forall₂_map_left_iff, List.forall₂_eq_eq_eq] at h
  exact h.symm

theorem isFinal_of_mem_runFrom (statuses : Statuses) (cases : List Case) (store : Store) (s : σ) :
    ∀ c ∈ (runFrom transport base statuses cases store s).cases, c.state.isFinal = true := by
  have h := forall₂_runFrom transport base statuses cases store s
  generalize (runFrom transport base statuses cases store s).cases = ended at h
  induction h with
  | nil => intro c hc; cases hc
  | cons hends _ ih =>
      intro c hc
      rcases List.mem_cons.1 hc with rfl | hc
      · exact hends.isFinal
      · exact ih c hc

/-- The reports of a run are those of its cases as they are in the end. -/
theorem reports_runFrom (statuses : Statuses) (cases : List Case) (store : Store) (s : σ) :
    (runFrom transport base statuses cases store s).reports =
      (runFrom transport base statuses cases store s).cases.map Case.report := by
  induction cases generalizing statuses store s with
  | nil => rfl
  | cons c rest ih =>
      obtain ⟨c', hcases, -, hreports⟩ := exists_turn transport base statuses c store s
      rw [runFrom, Outcome.reports_append, hreports, ih, Outcome.append, hcases]
      rfl

/-- The turn of a case that comes after the cases `before`. -/
def turnAfter (before : List Case) (c : Case) (store : Store) (s : σ) : Outcome σ :=
  let first := runCases transport base before store s
  turn transport base (record .empty first.cases) c first.store first.peer

theorem cases_turnAfter (before : List Case) (c : Case) (store : Store) (s : σ) :
    ∃ c', (turnAfter transport base before c store s).cases = [c'] :=
  cases_turn transport base _ c _ _

/-- A run is what happened before a turn, the turn, and what happens after it. -/
theorem runCases_split (before : List Case) (c : Case) (after : List Case) (store : Store) (s : σ) :
    ∃ last : Outcome σ, runCases transport base (before ++ c :: after) store s =
      (runCases transport base before store s).append
        ((turnAfter transport base before c store s).append last) := by
  rw [runCases, runFrom_append]
  exact ⟨_, rfl⟩

theorem length_runCases (cases : List Case) (store : Store) (s : σ) :
    (runCases transport base cases store s).cases.length = cases.length :=
  length_runFrom transport base .empty cases store s

theorem ids_runCases (cases : List Case) (store : Store) (s : σ) :
    (runCases transport base cases store s).cases.map Case.id = cases.map Case.id :=
  ids_runFrom transport base .empty cases store s

/-- Later turns leave the cases before them as they are. -/
theorem prefix_runCases (before later : List Case) (store : Store) (s : σ) :
    (runCases transport base before store s).cases <+:
      (runCases transport base (before ++ later) store s).cases := by
  rw [runCases, runCases, runFrom_append]
  exact List.prefix_append _ _

/-- A case of the first part of a run is at a position of that part in the end. -/
theorem exists_getElem?_of_mem (before later : List Case) (store : Store) (s : σ) {b : Case}
    (hb : b ∈ (runCases transport base before store s).cases) :
    ∃ j < before.length, (runCases transport base (before ++ later) store s).cases[j]? = some b := by
  obtain ⟨j, hj, rfl⟩ := List.getElem_of_mem hb
  have hprefix := prefix_runCases transport base before later store s
  refine ⟨j, ?_, List.prefix_iff_getElem?.1 hprefix j hj⟩
  rwa [length_runCases] at hj

/-- What is at the position of a case after a run comes from the turn of that case. -/
theorem getElem?_runCases_split (before : List Case) (c : Case) (after : List Case) (store : Store)
    (s : σ) :
    (runCases transport base (before ++ c :: after) store s).cases[before.length]? =
      (turnAfter transport base before c store s).cases.head? := by
  obtain ⟨last, hsplit⟩ := runCases_split transport base before c after store s
  obtain ⟨c', hturn⟩ := cases_turnAfter transport base before c store s
  have hlength := length_runCases transport base before store s
  rw [hsplit]
  simp [Outcome.append, hturn, ← hlength]

/-- Every case of a run as it is in the end comes from the turn of the case at its position. -/
theorem exists_turnAfter (cases : List Case) (store : Store) (s : σ) {i : Nat} {c' : Case}
    (h : (runCases transport base cases store s).cases[i]? = some c') :
    ∃ before c after, cases = before ++ c :: after ∧ before.length = i ∧
      (turnAfter transport base before c store s).cases = [c'] := by
  have hi : i < cases.length := by
    rw [← length_runCases transport base cases store s]
    exact (List.getElem?_eq_some_iff.1 h).1
  obtain ⟨c, hc⟩ : ∃ c, cases[i]? = some c := ⟨_, List.getElem?_eq_getElem hi⟩
  obtain ⟨before, after, rfl, rfl⟩ := exists_split_of_getElem? hc
  refine ⟨before, c, after, rfl, rfl, ?_⟩
  have hget := getElem?_runCases_split transport base before c after store s
  obtain ⟨own, hturn⟩ := cases_turnAfter transport base before c store s
  rw [h, hturn] at hget
  rw [hturn, Option.some.inj hget]

end

/-! ## Recorded statuses -/

theorem get?_record_of_notMem (statuses : Statuses) (cases : List Case) (id : String)
    (h : id ∉ cases.map Case.id) : (record statuses cases).get? id = statuses.get? id := by
  induction cases generalizing statuses with
  | nil => rfl
  | cons c rest ih =>
      rw [List.map_cons, List.mem_cons, not_or] at h
      have hrest := ih (statuses.insert c.id c.status) h.2
      simpa [record, h.1] using hrest

/-- Of cases with distinct identifiers, each has its status recorded. -/
theorem get?_record_of_mem (statuses : Statuses) (cases : List Case) (c : Case)
    (hnodup : (cases.map Case.id).Nodup) (hc : c ∈ cases) :
    (record statuses cases).get? c.id = some c.status := by
  induction cases generalizing statuses with
  | nil => cases hc
  | cons b rest ih =>
      obtain ⟨hb, hrest⟩ := List.nodup_cons.1 hnodup
      rcases List.mem_cons.1 hc with rfl | hc
      · have h := get?_record_of_notMem (statuses.insert c.id c.status) rest c.id hb
        simpa [record] using h
      · exact ih (statuses.insert b.id b.status) hrest hc

/-- Of cases with distinct identifiers, each is determined by its identifier. -/
theorem eq_of_mem_of_id_eq {cases : List Case} (hnodup : (cases.map Case.id).Nodup) {a b : Case}
    (ha : a ∈ cases) (hb : b ∈ cases) (h : a.id = b.id) : a = b :=
  List.inj_on_of_nodup_map hnodup ha hb h

end Probe
