import Probe.Cli.Program
import Probe.Http.Script
import Probe.Proofs.Run.Course
import Probe.Proofs.Suite.Built

/-!
# Checking and running

Suite files are loaded in two ways: a check looks for faults only, and a session also sets variables and
builds cases. Both refuse the same files for the same errors, whatever the session has come to before it
gets to a file. Main statements:

* `make_eq_error_iff`: what a session cannot load is what does not pass the check.
* `forall₂_course`: what a session makes of each file of a file system.
* `checking_law`: checks and sessions agree on suites, on files and on lists of files.
-/

namespace Probe

namespace Session

variable {σ : Type}

/-! ## One file -/

/-- A suite is set up with the variables and the words of the session. -/
theorem result_load (s : Session σ) (path : Path) (suite : Suite) :
    (s.load path (.ok suite)).result =
      ((suite.setUp s.store s.words).mapError (LoadError.invalid path)).map fun left =>
        (suite, left.2.2) := by
  cases hs : suite.seed s.store s.words with
  | error e => simp [load, Suite.setUp, hs, bind, Except.bind, Except.mapError, Except.map]
  | ok left =>
      cases hb : suite.build <;>
        simp [load, Suite.setUp, hs, hb, bind, Except.bind, Except.mapError, Except.map]

/-- A session refuses a file for the error that checking it gives. -/
theorem make_eq_error_iff (setting : Setting σ) (s : Session σ) (fs : FileSystem) (path : Path)
    (e : LoadError) :
    s.make setting path (Suite.load fs path) = .error e ↔ Suite.check fs path = .error e := by
  cases hload : Suite.load fs path with
  | error e' => simp [make, load, Suite.check, hload, bind, Except.bind]
  | ok suite =>
      have hagree := suite.validate_eq_error_iff_setUp s.store s.words
      simp only [make, result_load, Suite.check, hload, bind, Except.bind]
      cases hset : suite.setUp s.store s.words with
      | error fault =>
          have hv := (hagree fault).2 hset
          simp [hv, Except.mapError, Except.map]
      | ok left =>
          have hv : suite.validate = .ok () :=
            (suite.validate_eq_ok_iff_setUp s.store s.words).2 ⟨left, hset⟩
          simp [hv, Except.mapError, Except.map]

/-! ## Lists of files -/

/-- The files of a file system, as they are read. -/
def readAll (fs : FileSystem) (files : List Path) : List (Path × Except LoadError Suite) :=
  files.map fun path => (path, Suite.load fs path)

/-- What a session has made of a file: it has refused the file for the error that checking it gives, or
has run the cases that are built from its suite. -/
structure MadeFrom (fs : FileSystem) (setting : Setting σ) (path : Path) (f : Path × Made σ) : Prop where
  path_eq : f.1 = path
  error_iff : ∀ e, f.2 = .error e ↔ Suite.check fs path = .error e
  of_ok : ∀ suite o, f.2 = .ok (suite, o) → Suite.load fs path = .ok suite ∧
    ∃ cases store peer, suite.build = .ok cases ∧
      o = runCases setting.transport setting.baseUrl cases store peer

theorem madeFrom_make (fs : FileSystem) (setting : Setting σ) (s : Session σ) (path : Path) :
    MadeFrom fs setting path (path, s.make setting path (Suite.load fs path)) where
  path_eq := rfl
  error_iff := s.make_eq_error_iff setting fs path
  of_ok := by
    intro suite o hmade
    obtain ⟨hload, cases, hbuild, ho⟩ := s.make_eq_ok setting path _ hmade
    exact ⟨hload, cases, _, _, hbuild, ho⟩

theorem forall₂_course (fs : FileSystem) (setting : Setting σ) (s : Session σ) (files : List Path) :
    List.Forall₂ (MadeFrom fs setting) files (s.course setting (readAll fs files)) := by
  induction files generalizing s with
  | nil => exact .nil
  | cons path rest ih => exact .cons (s.madeFrom_make fs setting path) (ih _)

/-- A session loads all files exactly if all pass the check. -/
theorem exists_error_course_iff (fs : FileSystem) (setting : Setting σ) (s : Session σ)
    (files : List Path) :
    (∃ f ∈ s.course setting (readAll fs files), ∃ e, f.2 = .error e) ↔
      ∃ path ∈ files, ∃ e, Suite.check fs path = .error e := by
  have h := forall₂_course fs setting s files
  generalize s.course setting (readAll fs files) = course at h
  induction h with
  | nil => simp
  | cons hmade _ ih => simp only [List.exists_mem_cons_iff, ih, hmade.error_iff]

end Session

namespace Cli

theorem code_ofLines_eq_zero_iff (success : Bool) (lines : List String) :
    (Exit.ofLines success lines).code = 0 ↔ success = true := by
  cases success <;> simp [Exit.ofLines]

/-- The command that checks files succeeds exactly if no file is refused. -/
theorem code_checkFiles_eq_zero_iff (fs : FileSystem) (style : Style) (files : List Path) :
    (checkFiles fs style files).code = 0 ↔ ¬ ∃ path ∈ files, ∃ e, Suite.check fs path = .error e := by
  have hpasses : ∀ path, (Suite.check fs path).isOk = true ↔ ¬ ∃ e, Suite.check fs path = .error e := by
    intro path
    cases Suite.check fs path <;> simp [Except.isOk, Except.toBool]
  cases files with
  | nil => simp [checkFiles, code_ofLines_eq_zero_iff]
  | cons path rest =>
      simp only [checkFiles, List.isEmpty_cons, Bool.false_eq_true, ↓reduceIte,
        code_ofLines_eq_zero_iff, List.all_map, List.all_eq_true, Function.comp_apply, hpasses]
      simp

end Cli

/-- Checks and sessions agree. A suite does not pass the check exactly if it cannot be set up, whatever
the variables and random words are, and then for the same fault; a suite that is set up has a case for each
declaration, in the order of the declarations, and this order is accepted. Of any list of files a session
refuses those that do not pass the check, with the same errors; so the command that checks them succeeds
exactly if a session notes no failure to load. -/
theorem checking_law {σ : Type} (fs : FileSystem) (style : Style) (files : List Path)
    (setting : Setting σ) (words : Words) (peer : σ) :
    let s := Session.start words peer
    let read := Session.readAll fs files
    (∀ (suite : Suite) (store : Store) (words : Words),
      (∀ e, suite.validate = .error e ↔ suite.setUp store words = .error e) ∧
      (suite.validate = .ok () ↔ ∃ left, suite.setUp store words = .ok left) ∧
      ∀ store' words' cases, suite.setUp store words = .ok (store', words', cases) →
        List.Forall₂ CaseDecl.Declares suite.cases cases ∧ Order.validate cases = .ok ()) ∧
    List.Forall₂ (fun path f => f.1 = path ∧ ∀ e, Suite.check fs path = .error e ↔ f.2 = .error e)
      files (s.course setting read) ∧
    ((Cli.checkFiles fs style files).code = 0 ↔ (s.runFiles setting read).1.loadFailed = false) := by
  intro s read
  refine ⟨?_, ?_, ?_⟩
  · intro suite store words
    refine ⟨suite.validate_eq_error_iff_setUp store words, suite.validate_eq_ok_iff_setUp store words, ?_⟩
    intro store' words' cases hset
    obtain ⟨-, hbuild⟩ := suite.build_of_setUp store store' words words' cases hset
    exact ⟨suite.declares_of_build cases hbuild, ((suite.build_eq_ok_iff cases).1 hbuild).2⟩
  · exact (s.forall₂_course fs setting files).imp fun path f h => ⟨h.path_eq, fun e => (h.error_iff e).symm⟩
  · have htally := Session.tallies_runFiles setting words peer read
    have hfailed : (s.runFiles setting read).1.loadFailed = true ↔ _ :=
      htally.loadFailed.trans (s.exists_error_course_iff fs setting files)
    rw [Cli.code_checkFiles_eq_zero_iff, ← hfailed, Bool.not_eq_true]

/-- A suite with an unknown generator and an unknown method cannot be set up because of the generator. A
suite without them is set up with its case. A file that is not there does not pass the check, and the
session refuses it. -/
theorem checking_law_faulty :
    let good : Suite :=
      { Suite.empty with cases := [{ CaseDecl.empty with id := "a", method := "get", route := "/a" }] }
    let faulty : Suite :=
      { Suite.empty with
        generated := Table.empty.insert "X" "uuid"
        cases := [{ CaseDecl.empty with id := "b", method := "FETCH", route := "/b" }] }
    let fs : FileSystem := ⟨.directory [], []⟩
    let setting : Setting Script := ⟨Script.transport, "http://h", .plain, false⟩
    let s := Session.start ⟨[], 0⟩ Script.empty
    faulty.setUp .empty ⟨[], 0⟩ = .error (.unknownGenerator "X" "uuid") ∧
      List.Forall₂ CaseDecl.Declares good.cases [Case.new "a" .get "/a"] ∧
      (Cli.checkFiles fs .plain [⟨"c"⟩]).code = 1 ∧
      (s.runFiles setting (Session.readAll fs [⟨"c"⟩])).1.loadFailed = true := by
  intro good faulty fs setting s
  obtain ⟨hsuite, -, hcode⟩ := checking_law fs .plain [⟨"c"⟩] setting ⟨[], 0⟩ Script.empty
  have hfaulty : faulty.validate = .error (.unknownGenerator "X" "uuid") := rfl
  have hgood : good.setUp .empty ⟨[], 0⟩ = .ok (.empty, ⟨[], 0⟩, [Case.new "a" .get "/a"]) := rfl
  have hcheck : (Cli.checkFiles fs .plain [⟨"c"⟩]).code = 1 := rfl
  refine ⟨((hsuite faulty .empty ⟨[], 0⟩).1 _).1 hfaulty,
    ((hsuite good .empty ⟨[], 0⟩).2.2 _ _ _ hgood).1, hcheck, ?_⟩
  rw [← Bool.not_eq_false, ← hcode, hcheck]
  decide

end Probe
