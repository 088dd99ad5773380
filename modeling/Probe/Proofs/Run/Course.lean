import Probe.Proofs.Run.Turns
import Probe.Proofs.Suite.Faults
import Probe.Run.Session

/-!
# The course of a session

A session loads a file and runs its cases, or tells why it cannot be loaded, and goes on with the next
file. Its course lists what it makes of each file; the lines that it prints and all that it hands on
follow from the course. Main statements:

* `runFile_eq`: a file is loaded, and its outcome is added to the session.
* `runFiles_append`, `course_append`: files are run one part after the other.
* `lines_runFiles`: what is printed, by the course.
* `runFiles_failed`, `course_failed`: an earlier failure does not change the course.
* `tallies_runFiles`: what a session counts, by the course.
-/

namespace Probe

/-- What loading a file comes to: the variables and random words that it leaves, and its suite with the
cases that are built from it. -/
structure Loading where
  store : Store
  words : Words
  result : Except LoadError (Suite × List Case)

namespace Session

variable {σ : Type}

/-- What a session makes of a file: the outcome of its cases, or why it cannot be loaded. -/
abbrev Made (σ : Type) := Except LoadError (Suite × Outcome σ)

/-- Loads a file: the variables of its suite are set before its cases are built. -/
def load (s : Session σ) (path : Path) : Except LoadError Suite → Loading
  | .error e => ⟨s.store, s.words, .error e⟩
  | .ok suite =>
      match suite.seed s.store s.words with
      | .error e => ⟨s.store, s.words, .error (.invalid path e)⟩
      | .ok (store, words) =>
          match suite.build with
          | .error e => ⟨store, words, .error (.invalid path e)⟩
          | .ok cases => ⟨store, words, .ok (suite, cases)⟩

/-- The session with the variables and words that a file leaves. -/
def leftBy (s : Session σ) (l : Loading) : Session σ :=
  { s with store := l.store, words := l.words }

/-- Loads a file and runs its cases. -/
def make (setting : Setting σ) (s : Session σ) (path : Path) (file : Except LoadError Suite) : Made σ :=
  match (s.load path file).result with
  | .error e => .error e
  | .ok (suite, cases) =>
      .ok (suite, runCases setting.transport setting.baseUrl cases (s.load path file).store s.peer)

/-- Adds what was made of a file to a session. -/
def add (s : Session σ) (l : Loading) : Made σ → Session σ
  | .error _ => { s.leftBy l with loadFailed := true }
  | .ok (_, o) =>
      { s.leftBy l with
        store := o.store
        peer := o.peer
        summary := s.summary.merge o.summary
        executed := s.executed + o.cases.length }

/-- The lines for a file. -/
def linesOf (setting : Setting σ) (path : Path) : Made σ → List String
  | .error e => [errorLine setting.style path e]
  | .ok (suite, o) => title setting path suite ++ o.events.flatMap setting.style.eventLines

/-- What a session makes of files, one after the other. -/
def course (setting : Setting σ) :
    Session σ → List (Path × Except LoadError Suite) → List (Path × Made σ)
  | _, [] => []
  | s, (path, file) :: rest =>
      (path, s.make setting path file) :: course setting (s.runFile setting path file).1 rest

/-! ## One file -/

theorem runFile_eq (setting : Setting σ) (s : Session σ) (path : Path)
    (file : Except LoadError Suite) :
    s.runFile setting path file =
      (s.add (s.load path file) (s.make setting path file),
        linesOf setting path (s.make setting path file)) := by
  cases file with
  | error e => rfl
  | ok suite =>
      cases hs : suite.seed s.store s.words with
      | error e => simp [runFile, fail, make, load, add, leftBy, linesOf, hs]
      | ok left =>
          obtain ⟨store, words⟩ := left
          cases hb : suite.build with
          | error e => simp [runFile, fail, make, load, add, leftBy, linesOf, hs, hb]
          | ok cases => simp [runFile, make, load, add, leftBy, linesOf, hs, hb, length_runCases]

/-! ## Many files -/

theorem runFiles_cons (setting : Setting σ) (s : Session σ) (path : Path)
    (file : Except LoadError Suite) (rest : List (Path × Except LoadError Suite)) :
    s.runFiles setting ((path, file) :: rest) =
      (((s.runFile setting path file).1.runFiles setting rest).1,
        (s.runFile setting path file).2 ++ ((s.runFile setting path file).1.runFiles setting rest).2) :=
  rfl

/-- Files are run one part after the other. -/
theorem runFiles_append (setting : Setting σ) (s : Session σ)
    (a b : List (Path × Except LoadError Suite)) :
    s.runFiles setting (a ++ b) =
      (((s.runFiles setting a).1.runFiles setting b).1,
        (s.runFiles setting a).2 ++ ((s.runFiles setting a).1.runFiles setting b).2) := by
  induction a generalizing s with
  | nil => rfl
  | cons f rest ih =>
      obtain ⟨path, file⟩ := f
      simp only [List.cons_append, runFiles_cons, ih, List.append_assoc]

theorem course_append (setting : Setting σ) (s : Session σ)
    (a b : List (Path × Except LoadError Suite)) :
    s.course setting (a ++ b) = s.course setting a ++ (s.runFiles setting a).1.course setting b := by
  induction a generalizing s with
  | nil => rfl
  | cons f rest ih =>
      obtain ⟨path, file⟩ := f
      simp only [List.cons_append, course, runFiles_cons, ih]

/-- All that a session prints follows from its course. -/
theorem lines_runFiles (setting : Setting σ) (s : Session σ)
    (files : List (Path × Except LoadError Suite)) :
    (s.runFiles setting files).2 =
      (s.course setting files).flatMap fun (path, made) => linesOf setting path made := by
  induction files generalizing s with
  | nil => rfl
  | cons f rest ih =>
      obtain ⟨path, file⟩ := f
      rw [runFiles_cons, ih, course, List.flatMap_cons, runFile_eq]

/-! ## What the course does not depend on -/

/-- The session after a failure to load. -/
def failed (s : Session σ) : Session σ :=
  { s with loadFailed := true }

theorem add_failed (s : Session σ) (l : Loading) (made : Made σ) :
    s.failed.add l made = (s.add l made).failed := by
  cases made <;> rfl

theorem runFile_failed (setting : Setting σ) (s : Session σ) (path : Path)
    (file : Except LoadError Suite) :
    s.failed.runFile setting path file =
      ((s.runFile setting path file).1.failed, (s.runFile setting path file).2) := by
  rw [runFile_eq, runFile_eq]
  exact congrArg (·, _) (add_failed s _ _)

theorem runFiles_failed (setting : Setting σ) (s : Session σ)
    (files : List (Path × Except LoadError Suite)) :
    s.failed.runFiles setting files =
      ((s.runFiles setting files).1.failed, (s.runFiles setting files).2) := by
  induction files generalizing s with
  | nil => rfl
  | cons f rest ih =>
      obtain ⟨path, file⟩ := f
      simp only [runFiles_cons, runFile_failed, ih]

theorem course_failed (setting : Setting σ) (s : Session σ)
    (files : List (Path × Except LoadError Suite)) :
    s.failed.course setting files = s.course setting files := by
  induction files generalizing s with
  | nil => rfl
  | cons f rest ih =>
      obtain ⟨path, file⟩ := f
      simp only [course, runFile_failed, ih]
      rfl

/-- Whether names of suites are printed only matters for what is printed. -/
theorem runFiles_titled (setting : Setting σ) (titled : Bool) (s : Session σ)
    (files : List (Path × Except LoadError Suite)) :
    (s.runFiles { setting with titled } files).1 = (s.runFiles setting files).1 ∧
      s.course { setting with titled } files = s.course setting files := by
  induction files generalizing s with
  | nil => exact ⟨rfl, rfl⟩
  | cons f rest ih =>
      obtain ⟨path, file⟩ := f
      have hmake : s.make { setting with titled } path file = s.make setting path file := rfl
      simp only [runFiles_cons, course, runFile_eq, hmake]
      exact ⟨(ih _).1, congrArg _ (ih _).2⟩

/-! ## What a session counts -/

/-- The cases of a file that have had their turns; there are none of a file that was not loaded. -/
def casesOf : Made σ → List Case
  | .error _ => []
  | .ok (_, o) => o.cases

/-- The cases that have had their turns, file by file. -/
def ended (course : List (Path × Made σ)) : List Case :=
  course.flatMap fun f => casesOf f.2

/-- The cases among them that are not silent. -/
def counted (course : List (Path × Made σ)) : List Case :=
  (ended course).filter fun c => !c.silent

/-- What a session has counted is what a course has come to. -/
structure Tallies (s : Session σ) (course : List (Path × Made σ)) : Prop where
  reports : s.summary.reports = (counted course).map Case.report
  executed : s.executed = (ended course).length
  loadFailed : s.loadFailed = true ↔ ∃ f ∈ course, ∃ e, f.2 = .error e

theorem tallies_start (words : Words) (peer : σ) : (start words peer).Tallies [] where
  reports := rfl
  executed := rfl
  loadFailed := by simp [start]

/-- The outcome of a file is that of a run of the cases of its suite. -/
theorem make_eq_ok (setting : Setting σ) (s : Session σ) (path : Path) (file : Except LoadError Suite)
    {suite : Suite} {o : Outcome σ} (h : s.make setting path file = .ok (suite, o)) :
    file = .ok suite ∧ ∃ cases, suite.build = .ok cases ∧
      o = runCases setting.transport setting.baseUrl cases (s.load path file).store s.peer := by
  cases file with
  | error e => simp [make, load] at h
  | ok suite' =>
      cases hs : suite'.seed s.store s.words with
      | error e => simp [make, load, hs] at h
      | ok left =>
          obtain ⟨store, words⟩ := left
          cases hb : suite'.build with
          | error e => simp [make, load, hs, hb] at h
          | ok cases =>
              simp only [make, load, hs, hb, Except.ok.injEq, Prod.mk.injEq] at h
              obtain ⟨rfl, rfl⟩ := h
              exact ⟨rfl, cases, hb, by simp [load, hs, hb]⟩

theorem reports_summary_runCases (transport : Transport σ) (base : String) (cases : List Case)
    (store : Store) (s : σ) :
    (runCases transport base cases store s).summary.reports =
      ((runCases transport base cases store s).cases.filter fun c => !c.silent).map Case.report := by
  have hreports : (runCases transport base cases store s).reports = _ :=
    reports_runFrom transport base .empty cases store s
  rw [Outcome.summary, hreports, List.filter_map]
  rfl

/-- A session counts what it makes of a file, -/
theorem Tallies.runFile {s : Session σ} {earlier : List (Path × Made σ)} (h : s.Tallies earlier)
    (setting : Setting σ) (path : Path) (file : Except LoadError Suite) :
    (s.runFile setting path file).1.Tallies (earlier ++ [(path, s.make setting path file)]) := by
  have hended : ended (earlier ++ [(path, s.make setting path file)]) =
      ended earlier ++ casesOf (s.make setting path file) := by
    rw [ended, List.flatMap_append, List.flatMap_singleton]
    rfl
  rw [runFile_eq]
  cases hmade : s.make setting path file with
  | error e =>
      rw [hmade, casesOf, List.append_nil] at hended
      exact
        { reports := by rw [counted, hended]; exact h.reports
          executed := by rw [hended]; exact h.executed
          loadFailed := by simp [add] }
  | ok made =>
      obtain ⟨suite, o⟩ := made
      obtain ⟨-, cases, -, ho⟩ := s.make_eq_ok setting path file hmade
      rw [hmade, casesOf] at hended
      have hreports : o.summary.reports = (o.cases.filter fun c => !c.silent).map Case.report := by
        rw [ho]
        exact reports_summary_runCases _ _ cases _ s.peer
      exact
        { reports := by
            rw [counted, hended, List.filter_append, List.map_append, ← hreports]
            exact congrArg (· ++ o.summary.reports) h.reports
          executed := by
            rw [hended, List.length_append, ← h.executed]
            rfl
          loadFailed := by
            have hloaded : (s.add (s.load path file) (.ok (suite, o))).loadFailed = s.loadFailed := rfl
            rw [hloaded, h.loadFailed]
            simp }

/-- and of all files, one after the other. -/
theorem Tallies.runFiles {s : Session σ} {earlier : List (Path × Made σ)} (h : s.Tallies earlier)
    (setting : Setting σ) (files : List (Path × Except LoadError Suite)) :
    (s.runFiles setting files).1.Tallies (earlier ++ s.course setting files) := by
  induction files generalizing s earlier with
  | nil =>
      rw [course, List.append_nil]
      exact h
  | cons f rest ih =>
      obtain ⟨path, file⟩ := f
      have hrest := ih (h.runFile setting path file)
      rw [runFiles_cons, course]
      rw [List.append_assoc] at hrest
      exact hrest

/-- A session that starts afresh has counted its course. -/
theorem tallies_runFiles (setting : Setting σ) (words : Words) (peer : σ)
    (files : List (Path × Except LoadError Suite)) :
    ((start words peer).runFiles setting files).1.Tallies ((start words peer).course setting files) :=
  (tallies_start words peer).runFiles setting files

end Session

end Probe
