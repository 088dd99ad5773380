import Mathlib.Data.List.Induction
import Probe.Http.Script
import Probe.Proofs.Case.Captures
import Probe.Proofs.Run.Turns

/-!
# The variables of a run

A run changes the variables by its captures and by nothing else. The captures of all turns in order are
the log of the run; at every point of the run, before the turn of a case as well as before the check of
a field, the variables are those at the start with a first part of the log written over them. Main
statements:

* `captureLog_append`: the log of two parts of a run.
* `store_runFrom`: the variables after a run.
* `executed_of_mem_captureLog`: what is written comes from a case that is executed.
* `store_law`: what the log says of every point of a run.
-/

namespace Probe

section

variable {σ : Type} (transport : Transport σ) (base : String)

/-- What the turn of a case captures: something only if the case is executed. -/
def turnCaptures (statuses : Statuses) (c : Case) (store : Store) (s : σ) : Writes :=
  match c.blocker? statuses with
  | some _ => []
  | none => c.captures transport base store s

/-- The captures of cases that are run after others with the statuses given. -/
def logFrom (statuses : Statuses) : List Case → Store → σ → Writes
  | [], _, _ => []
  | c :: rest, store, s =>
      let first := turn transport base statuses c store s
      turnCaptures transport base statuses c store s ++
        logFrom (record statuses first.cases) rest first.store first.peer

/-- The captures of a run, in order. -/
def captureLog (cases : List Case) (store : Store) (s : σ) : Writes :=
  logFrom transport base .empty cases store s

/-- What the case that comes after the cases `before` captures in its turn. -/
def capturesAfter (before : List Case) (c : Case) (store : Store) (s : σ) : Writes :=
  let first := runCases transport base before store s
  turnCaptures transport base (record .empty first.cases) c first.store first.peer

/-- The case that comes after the cases `before` waits and is stopped by no dependency, so that its turn
executes it. -/
def ExecutedAfter (before : List Case) (c : Case) (store : Store) (s : σ) : Prop :=
  c.status = .waiting ∧
    c.blocker? (record .empty (runCases transport base before store s).cases) = none

/-- A name that an expected field of an executed case captures to. -/
def CaptureTarget (cases : List Case) (store : Store) (s : σ) (name : String) : Prop :=
  ∃ before c after, cases = before ++ c :: after ∧ ExecutedAfter transport base before c store s ∧
    ∃ f ∈ c.expected.entries, f.2.capture = some name

/-! ## The log -/

theorem captureLog_nil (store : Store) (s : σ) : captureLog transport base [] store s = [] := rfl

/-- The log of a run is that of its first part, and then that of what comes after it. -/
theorem logFrom_append (statuses : Statuses) (a b : List Case) (store : Store) (s : σ) :
    logFrom transport base statuses (a ++ b) store s =
      let first := runFrom transport base statuses a store s
      logFrom transport base statuses a store s ++
        logFrom transport base (record statuses first.cases) b first.store first.peer := by
  induction a generalizing statuses store s with
  | nil => rfl
  | cons c rest ih =>
      simp only [List.cons_append, logFrom, runFrom, ih]
      simp [Outcome.append, record_append]

theorem captureLog_append (before later : List Case) (store : Store) (s : σ) :
    captureLog transport base (before ++ later) store s =
      captureLog transport base before store s ++
        logFrom transport base (record .empty (runCases transport base before store s).cases) later
          (runCases transport base before store s).store
          (runCases transport base before store s).peer :=
  logFrom_append transport base .empty before later store s

/-- The log goes on with what the turn of the next case captures. -/
theorem captureLog_concat (before : List Case) (c : Case) (store : Store) (s : σ) :
    captureLog transport base (before ++ [c]) store s =
      captureLog transport base before store s ++ capturesAfter transport base before c store s := by
  rw [captureLog_append, logFrom, logFrom, List.append_nil]
  rfl

/-! ## The variables -/

theorem store_turn (statuses : Statuses) (c : Case) (store : Store) (s : σ) :
    (turn transport base statuses c store s).store =
      store.insertAll (turnCaptures transport base statuses c store s) := by
  unfold turnCaptures
  cases hb : c.blocker? statuses with
  | some d =>
      rw [turn_of_blocker transport base statuses c store s d hb]
      rfl
  | none =>
      rw [turn_of_free transport base statuses c store s hb]
      exact c.store_execute transport base store s

/-- A run writes its log over the variables. -/
theorem store_runFrom (statuses : Statuses) (cases : List Case) (store : Store) (s : σ) :
    (runFrom transport base statuses cases store s).store =
      store.insertAll (logFrom transport base statuses cases store s) := by
  induction cases generalizing statuses store s with
  | nil => rfl
  | cons c rest ih =>
      simp only [runFrom, logFrom, Outcome.append]
      rw [ih, Store.insertAll_append, store_turn]

theorem store_runCases (cases : List Case) (store : Store) (s : σ) :
    (runCases transport base cases store s).store =
      store.insertAll (captureLog transport base cases store s) :=
  store_runFrom transport base .empty cases store s

/-- The turn of an executed case captures what its execution captures. -/
theorem capturesAfter_of_executed (before : List Case) (c : Case) (store : Store) (s : σ)
    (h : ExecutedAfter transport base before c store s) :
    capturesAfter transport base before c store s =
      c.captures transport base (runCases transport base before store s).store
        (runCases transport base before store s).peer := by
  simp [capturesAfter, turnCaptures, h.2]

/-- A turn that captures something executes its case. -/
theorem executedAfter_of_mem (before : List Case) (c : Case) (store : Store) (s : σ)
    {w : String × String} (h : w ∈ capturesAfter transport base before c store s) :
    ExecutedAfter transport base before c store s ∧
      (∃ f ∈ c.expected.entries, f.2.capture = some w.1) ∧ w.2 ≠ "" := by
  unfold capturesAfter turnCaptures at h
  cases hb : c.blocker? (record .empty (runCases transport base before store s).cases) with
  | some d => simp [hb] at h
  | none =>
      simp only [hb] at h
      obtain ⟨hw, hcapture, hne⟩ := Case.of_mem_captures transport base h
      exact ⟨⟨hw, hb⟩, hcapture, hne⟩

/-- What is in the log is not empty, and it is written by an executed case. -/
theorem executed_of_mem_captureLog (cases : List Case) (store : Store) (s : σ) {w : String × String}
    (h : w ∈ captureLog transport base cases store s) :
    CaptureTarget transport base cases store s w.1 ∧ w.2 ≠ "" := by
  -- From the end of the list: that is where the log goes on.
  induction cases using List.reverseRecOn with
  | nil => simp [captureLog_nil] at h
  | append_singleton before c ih =>
      rw [captureLog_concat, List.mem_append] at h
      rcases h with h | h
      · obtain ⟨⟨before', c', after, rfl, hexecuted, hcapture⟩, hne⟩ := ih h
        exact ⟨⟨before', c', after ++ [c], by simp, hexecuted, hcapture⟩, hne⟩
      · obtain ⟨hexecuted, hcapture, hne⟩ := executedAfter_of_mem transport base before c store s h
        exact ⟨⟨before, c, [], rfl, hexecuted, hcapture⟩, hne⟩

/-- Let `done` be a first part of the log of a run, and `more` what comes next. Then the variables change
from `done` to `more` by `more` alone: the last write to a variable counts, and no variable is removed,
made empty, or changed unless an executed case captures to it. The turn of a case finds the log of the
cases before it and goes on with its own captures. These are what the fields before the first one that
is not met capture of the body of the response, if it comes to that, and a field is checked with what
those before it have captured. No expectation that captures rejects what is not absent. -/
theorem store_law (cases : List Case) (store : Store) (s : σ) :
    let log := captureLog transport base cases store s
    (runCases transport base cases store s).store = store.insertAll log ∧
    (∀ done more, done ++ more <+: log →
      Overwritten (CaptureTarget transport base cases store s) more
        (store.insertAll done) (store.insertAll (done ++ more))) ∧
    (∀ before c after, cases = before ++ c :: after →
      let first := runCases transport base before store s
      let found := store.insertAll (captureLog transport base before store s)
      let own := capturesAfter transport base before c store s
      captureLog transport base before store s ++ own <+: log ∧
      first.store = found ∧
      (turnAfter transport base before c store s).store = found.insertAll own ∧
      (¬ ExecutedAfter transport base before c store s → own = []) ∧
      (ExecutedAfter transport base before c store s →
        match c.executedBody? transport base found first.peer with
        | none => own = []
        | some body => ∃ met rest, Case.Checked body c.expected.entries met rest found own)) ∧
    (∀ (e : Expectation) (observed : Json.Value) (store : Store), e.capture.isSome = true →
      observed.isFalsy = false → (e.validate observed store).1 = true) := by
  intro log
  refine ⟨store_runCases transport base cases store s, ?_, ?_, Expectation.validate_of_capture⟩
  · intro done more hprefix
    rw [Store.insertAll_append]
    apply Store.overwritten_insertAll
    -- What is written between two points of the log is in the log.
    intro w hw
    have hlog : w ∈ log := hprefix.subset (List.mem_append_right done hw)
    exact executed_of_mem_captureLog transport base cases store s hlog
  · rintro before c after rfl first found own
    have hfirst : first.store = found := store_runCases transport base before store s
    refine ⟨?_, hfirst, ?_, ?_, ?_⟩
    · rw [← captureLog_concat]
      have happend := captureLog_append transport base (before ++ [c]) after store s
      rw [List.append_assoc, List.singleton_append] at happend
      exact ⟨_, happend.symm⟩
    · rw [← hfirst]
      exact store_turn transport base _ c first.store first.peer
    · intro hnot
      apply List.eq_nil_iff_forall_not_mem.2
      intro w hw
      exact hnot (executedAfter_of_mem transport base before c store s hw).1
    · intro hexecuted
      have hown : own = c.captures transport base found first.peer := by
        rw [← hfirst]
        exact capturesAfter_of_executed transport base before c store s hexecuted
      rw [hown, Case.captures]
      cases c.executedBody? transport base found first.peer with
      | none => rfl
      | some body => exact Case.exists_checked body c.expected.entries found

end

/-- A case captures two fields before it fails for the third one: both captures stay, and one of them
is written over a variable that was there. -/
theorem store_law_failed :
    let token : Field := ("token", .parse ">>TOKEN")
    let id : Field := ("id", .parse "[email]>>ID")
    let role : Field := ("role", .parse "{ROLE}")
    let c := (Case.new "login" .post "/login").withExpected ⟨[token, id, role]⟩
    let body : Json.Value :=
      .object [("id", .number (.integer 7)), ("role", .string "user"), ("token", .string "abc")]
    let peer := Script.empty.append (.post, "/login") (.ok (.ofJson 200 body))
    let store := (Store.set .empty "TOKEN" "old").set "ROLE" "admin"
    let log := captureLog Script.transport "http://h" [c] store peer
    let o := runCases Script.transport "http://h" [c] store peer
    log = [("TOKEN", "abc"), ("ID", "7")] ∧
      o.cases.map Case.status = [.failed] ∧
      o.store = store.insertAll log ∧
      Overwritten (CaptureTarget Script.transport "http://h" [c] store peer) [("ID", "7")]
        (store.insertAll [("TOKEN", "abc")]) (store.insertAll [("TOKEN", "abc"), ("ID", "7")]) ∧
      (∃ body met rest, Case.Checked body [token, id, role] met rest store log) ∧
      (token.2.validate (.string "abc") store).1 = true := by
  intro token id role c body peer store log o
  have hlog : log = [("TOKEN", "abc"), ("ID", "7")] := by decide +kernel
  have hstatus : o.cases.map Case.status = [.failed] := by decide +kernel
  obtain ⟨hstore, hpoint, hturn, hcapture⟩ := store_law Script.transport "http://h" [c] store peer
  have hexecuted : ExecutedAfter Script.transport "http://h" [] c store peer := ⟨rfl, rfl⟩
  have hown : capturesAfter Script.transport "http://h" [] c store peer = log :=
    (captureLog_concat Script.transport "http://h" [] c store peer).symm
  have hchecked : match c.executedBody? Script.transport "http://h" store peer with
      | none => capturesAfter Script.transport "http://h" [] c store peer = []
      | some body => ∃ met rest, Case.Checked body c.expected.entries met rest store
          (capturesAfter Script.transport "http://h" [] c store peer) :=
    (hturn [] c [] rfl).2.2.2.2 hexecuted
  rw [hown] at hchecked
  have hsome : ∃ body met rest, Case.Checked body [token, id, role] met rest store log := by
    split at hchecked
    · exact absurd (hlog.symm.trans hchecked) (List.cons_ne_nil _ _)
    · exact ⟨_, hchecked⟩
  have hprefix : [("TOKEN", "abc")] ++ [("ID", "7")] <+: log := hlog ▸ List.prefix_rfl
  exact ⟨hlog, hstatus, hstore, hpoint [("TOKEN", "abc")] [("ID", "7")] hprefix, hsome,
    hcapture token.2 (.string "abc") store rfl rfl⟩

end Probe
