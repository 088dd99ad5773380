import Probe.Http.Script
import Probe.Proofs.Run.Course

/-!
# Files that cannot be loaded

The variables of a file are set before its cases are built. A file that cannot be read or names an
unknown generator sets none, and the session goes on as if the file were not there. A file with an
unknown method or a wrong order of its cases has set its variables when that is noticed: they stay, and
the later files find them. Main statements:

* `course_unloadable`: a session goes on with what the file leaves.
* `isolated_iff`: the other files are not affected exactly if the file changes no variable.
* `unloadable_file`: both, with what each kind of fault leaves.
* `leaking_file`: a file that cannot be loaded changes the report of a case of another file.
-/

namespace Probe

/-- A file that cannot be loaded: it cannot be read, or its suite is faulty. -/
def Unloadable : Except LoadError Suite → Prop
  | .error _ => True
  | .ok suite => ∃ e, suite.validate = .error e

/-- A fault that is noticed before variables are set: the file cannot be read, or a generator is not
known. -/
def EarlyFault : Except LoadError Suite → Prop
  | .error _ => True
  | .ok suite => ∃ e, suite.generators = .error e

namespace Session

variable {σ : Type}

/-- The files around a file that cannot be loaded are not affected by it: without it they have the same
outcomes, and the session comes to the same end but for the failure to load. Generated values are
random: without the file, those after it get the same random words. -/
def Isolated (setting : Setting σ) (s : Session σ) (before : List (Path × Except LoadError Suite))
    (path : Path) (file : Except LoadError Suite) (after : List (Path × Except LoadError Suite)) :
    Prop :=
  let met := (s.runFiles setting before).1
  let without : Session σ := { met with words := (met.load path file).words }
  let full := s.runFiles setting (before ++ (path, file) :: after)
  ∃ e, ∀ titled,
    s.course setting (before ++ (path, file) :: after) =
      s.course setting before ++ (path, .error e) :: without.course { setting with titled } after ∧
    full.1 = (without.runFiles { setting with titled } after).1.failed ∧
    full.2 = (s.runFiles setting before).2 ++
      errorLine setting.style path e :: (without.runFiles setting after).2

/-! ## Loading such a file -/

theorem exists_load_error (s : Session σ) (path : Path) (file : Except LoadError Suite)
    (h : Unloadable file) : ∃ e, (s.load path file).result = .error e := by
  cases file with
  | error e => exact ⟨e, rfl⟩
  | ok suite =>
      obtain ⟨e, he⟩ := h
      rcases (suite.validate_eq_error_iff e).1 he with hg | ⟨⟨generators, hg⟩, hb⟩
      · have hs := (suite.seed_eq_error_iff s.store s.words e).2 hg
        exact ⟨.invalid path e, by simp [load, hs]⟩
      · have hs := suite.seed_of_generators s.store s.words hg
        exact ⟨.invalid path e, by simp [load, hs, hb]⟩

/-- A fault that is noticed early changes neither variables nor words. -/
theorem load_of_earlyFault (s : Session σ) (path : Path) (file : Except LoadError Suite)
    (h : EarlyFault file) : s.leftBy (s.load path file) = s := by
  cases file with
  | error e => rfl
  | ok suite =>
      obtain ⟨e, hg⟩ := h
      have hs := (suite.seed_eq_error_iff s.store s.words e).2 hg
      simp [load, leftBy, hs]

/-- When the generators are known, the variables are set, whether the cases can be built or not. -/
theorem seed_of_not_earlyFault (s : Session σ) (path : Path) (suite : Suite)
    (h : ¬ EarlyFault (.ok suite)) :
    suite.seed s.store s.words =
      .ok ((s.load path (.ok suite)).store, (s.load path (.ok suite)).words) := by
  cases hg : suite.generators with
  | error e => exact absurd ⟨e, hg⟩ h
  | ok generators =>
      have hs := suite.seed_of_generators s.store s.words hg
      cases hb : suite.build <;> simp [load, hs, hb]

/-! ## Going on after it -/

/-- A session tells that the file cannot be loaded and goes on with what the file leaves. -/
theorem runFile_unloadable (setting : Setting σ) (s : Session σ) (path : Path)
    (file : Except LoadError Suite) (e : LoadError) (h : (s.load path file).result = .error e) :
    s.make setting path file = .error e ∧
      s.runFile setting path file =
        ((s.leftBy (s.load path file)).failed, [errorLine setting.style path e]) := by
  have hmake : s.make setting path file = .error e := by simp [make, h]
  refine ⟨hmake, ?_⟩
  rw [runFile_eq, hmake]
  rfl

theorem course_unloadable (setting : Setting σ) (s : Session σ)
    (before : List (Path × Except LoadError Suite)) (path : Path) (file : Except LoadError Suite)
    (after : List (Path × Except LoadError Suite)) (e : LoadError)
    (h : ((s.runFiles setting before).1.load path file).result = .error e) :
    let met := (s.runFiles setting before).1
    let left := met.leftBy (met.load path file)
    let full := s.runFiles setting (before ++ (path, file) :: after)
    s.course setting (before ++ (path, file) :: after) =
      s.course setting before ++ (path, .error e) :: left.course setting after ∧
    full.1 = (left.runFiles setting after).1.failed ∧
    full.2 = (s.runFiles setting before).2 ++
      errorLine setting.style path e :: (left.runFiles setting after).2 := by
  intro met left full
  obtain ⟨hmake, hrun⟩ := runFile_unloadable setting met path file e h
  have hfull : full = _ := runFiles_append setting s before ((path, file) :: after)
  rw [runFiles_cons, hrun, runFiles_failed] at hfull
  refine ⟨?_, congrArg Prod.fst hfull, congrArg Prod.snd hfull⟩
  rw [course_append, course, hmake, hrun, course_failed]

theorem succeeded_failed (s : Session σ) : s.failed.succeeded = false := by
  simp [succeeded, isIdle, failed]

/-- The other files are never affected exactly if the file leaves all variables as they were. -/
theorem isolated_iff (setting : Setting σ) (s : Session σ)
    (before : List (Path × Except LoadError Suite)) (path : Path) (file : Except LoadError Suite)
    (h : Unloadable file) :
    (∀ after, s.Isolated setting before path file after) ↔
      ((s.runFiles setting before).1.load path file).store = (s.runFiles setting before).1.store := by
  obtain ⟨e, he⟩ := (s.runFiles setting before).1.exists_load_error path file h
  constructor
  · intro hall
    -- With no file after it, what it leaves is what the session ends with.
    obtain ⟨_, hwithout⟩ := hall []
    obtain ⟨-, hfull, -⟩ := hwithout setting.titled
    have hleft := (course_unloadable setting s before path file [] e he).2.1
    exact congrArg Session.store (hleft.symm.trans hfull)
  · intro hstore after
    refine ⟨e, fun titled => ?_⟩
    have hleft : (s.runFiles setting before).1.leftBy ((s.runFiles setting before).1.load path file) =
        { (s.runFiles setting before).1 with
          words := ((s.runFiles setting before).1.load path file).words } := by
      rw [leftBy, hstore]
    obtain ⟨hcourse, hend, hlines⟩ := course_unloadable setting s before path file after e he
    rw [hleft] at hcourse hend hlines
    rw [(runFiles_titled setting titled _ after).1, (runFiles_titled setting titled _ after).2]
    exact ⟨hcourse, hend, hlines⟩

/-- A session with a file that cannot be loaded does not succeed, and goes on after that file with the
variables and words that it leaves. The other files are never affected exactly if it changes no
variable. It changes none, nor takes random words, if the fault is noticed early: then all is as
without the file, but for its line and the failure to load. Otherwise it has set all variables of its
suite. -/
theorem unloadable_file (setting : Setting σ) (s : Session σ)
    (before : List (Path × Except LoadError Suite)) (path : Path) (file : Except LoadError Suite)
    (h : Unloadable file) :
    let met := (s.runFiles setting before).1
    let left := met.leftBy (met.load path file)
    (∃ e, ∀ after,
      let full := s.runFiles setting (before ++ (path, file) :: after)
      s.course setting (before ++ (path, file) :: after) =
        s.course setting before ++ (path, .error e) :: left.course setting after ∧
      full.1 = (left.runFiles setting after).1.failed ∧
      full.2 = (s.runFiles setting before).2 ++
        errorLine setting.style path e :: (left.runFiles setting after).2 ∧
      full.1.succeeded = false) ∧
    ((∀ after, s.Isolated setting before path file after) ↔ left.store = met.store) ∧
    (EarlyFault file → left = met ∧ ∃ e, ∀ after titled,
      let full := s.runFiles setting (before ++ (path, file) :: after)
      let without := s.runFiles { setting with titled } (before ++ after)
      (∃ rest, s.course setting (before ++ (path, file) :: after) =
          s.course setting before ++ (path, .error e) :: rest ∧
        s.course { setting with titled } (before ++ after) = s.course setting before ++ rest) ∧
      full.1 = without.1.failed) ∧
    (∀ suite, file = .ok suite → ¬ EarlyFault file →
      suite.seed met.store met.words = .ok (left.store, left.words)) := by
  intro met left
  obtain ⟨e, he⟩ := met.exists_load_error path file h
  refine ⟨⟨e, fun after => ?_⟩, isolated_iff setting s before path file h, ?_, ?_⟩
  · obtain ⟨hcourse, hend, hlines⟩ := course_unloadable setting s before path file after e he
    refine ⟨hcourse, hend, hlines, ?_⟩
    rw [hend]
    exact succeeded_failed _
  · intro hearly
    have hleft : left = met := load_of_earlyFault met path file hearly
    refine ⟨hleft, e, fun after titled => ?_⟩
    obtain ⟨hcourse, hend, -⟩ := course_unloadable setting s before path file after e he
    refine ⟨⟨met.course setting after, ?_, ?_⟩, ?_⟩
    · exact hleft ▸ hcourse
    · rw [(runFiles_titled setting titled s (before ++ after)).2, course_append]
    · have hwithout : (s.runFiles setting (before ++ after)).1 = (met.runFiles setting after).1 := by
        rw [runFiles_append]
      rw [(runFiles_titled setting titled s (before ++ after)).1, hwithout, ← hleft]
      exact hend
  · rintro suite rfl hlate
    exact met.seed_of_not_earlyFault path suite hlate

end Session

/-! ## A file that leaks a variable -/

/-- A suite with a token and a case of an unknown method. -/
def Suite.leaking : Suite :=
  { Suite.empty with
    assigned := Table.empty.insert tokenVariable (.text "leaked")
    cases := [{ CaseDecl.empty with id := "a", method := "FETCH", route := "/a" }] }

/-- A suite with a case that needs a token. -/
def Suite.needy : Suite :=
  { Suite.empty with
    cases := [{ CaseDecl.empty with id := "t", method := "GET", route := "/t", guarded := true }] }

namespace Session

/-- A file that cannot be loaded changes the report of a case of another file, the requests that are
sent and the variables in the end. -/
theorem leaking_file :
    let setting : Setting Script := ⟨Script.transport, "http://h", .plain, false⟩
    let s : Session Script := start ⟨[], 0⟩ .empty
    let full := (s.runFiles setting [(⟨"a"⟩, .ok .leaking), (⟨"b"⟩, .ok .needy)]).1
    let without := (s.runFiles setting [(⟨"b"⟩, .ok .needy)]).1
    Unloadable (.ok .leaking) ∧
      full.summary.reports.map Report.message ≠ ["No token found"] ∧
      without.summary.reports.map Report.message = ["No token found"] ∧
      full.peer.recorded ≠ without.peer.recorded ∧
      full.store.get? tokenVariable = some "leaked" ∧ without.store.get? tokenVariable = none := by
  refine ⟨⟨.unknownMethod "FETCH", by decide +kernel⟩, ?_⟩
  decide +kernel

/-- The first file of a session cannot be loaded and leaves a token. -/
theorem unloadable_file_leaking :
    let setting : Setting Script := ⟨Script.transport, "http://h", .plain, false⟩
    let s : Session Script := start ⟨[], 0⟩ .empty
    let left := s.leftBy (s.load ⟨"a"⟩ (.ok .leaking))
    Unloadable (.ok .leaking) ∧ ¬ EarlyFault (.ok .leaking) ∧
      Suite.leaking.seed s.store s.words = .ok (left.store, left.words) ∧
      (s.runFiles setting [(⟨"a"⟩, .ok .leaking), (⟨"b"⟩, .ok .needy)]).1 =
        (left.runFiles setting [(⟨"b"⟩, .ok .needy)]).1.failed ∧
      ¬ (∀ after, s.Isolated setting [] ⟨"a"⟩ (.ok .leaking) after) := by
  intro setting s left
  have h : Unloadable (.ok .leaking) := ⟨.unknownMethod "FETCH", by decide +kernel⟩
  have hlate : ¬ EarlyFault (.ok .leaking) := by
    rintro ⟨e, he⟩
    cases he
  obtain ⟨⟨e, hlaw⟩, hiff, -, hseed⟩ := unloadable_file setting s [] ⟨"a"⟩ (.ok .leaking) h
  refine ⟨h, hlate, hseed .leaking rfl hlate, (hlaw _).2.1, ?_⟩
  rw [hiff]
  intro hstore
  have htoken : left.store.get? tokenVariable = some "leaked" := by decide +kernel
  have hnone : s.store.get? tokenVariable = none := rfl
  rw [show left.store = s.store from hstore, hnone] at htoken
  cases htoken

end Session

end Probe
