import Probe.Proofs.Run.Checking
import Probe.Proofs.Run.Silence

/-!
# The result of a run

A run succeeds exactly if it has loaded all of its files and no case that is not silent has failed or met
an error. It ends with a summary of the cases that are not silent, or tells that there was nothing to run.
Main statements:

* `Session.Tallies.succeeded_iff`: when a session succeeds, by its course.
* `Session.Tallies.closing_of_idle`, `Session.Tallies.closing_of_not_idle`: what is printed at the end.
* `Session.ended_eq_declared`: the cases that had their turns are those that loaded files declare.
* `Cli.run_result`: the code of a run, and what it prints in the end.
-/

namespace Probe

/-- The suite of a file that passes the check. -/
def Suite.passing? (fs : FileSystem) (path : Path) : Option Suite :=
  match Suite.load fs path, Suite.check fs path with
  | .ok suite, .ok _ => some suite
  | _, _ => none

/-! ## Summaries of cases -/

namespace Summary

variable (cases : List Case)

/-- A report has the status of its case, so that reports are counted as cases are. -/
theorem status_comp_report (status : Status) :
    (fun r : Report => r.status == status) ∘ Case.report = fun c => decide (c.status = status) := by
  funext c
  exact beq_eq_decide c.status status

theorem count_report (status : Status) :
    Summary.count ⟨cases.map Case.report⟩ status = cases.countP fun c => c.status = status := by
  rw [count, List.countP_map, status_comp_report]

theorem errorIds_report :
    Summary.errorIds ⟨cases.map Case.report⟩ = (cases.filter fun c => c.status = .error).map Case.id := by
  rw [errorIds, List.filter_map, List.map_map, status_comp_report]
  rfl

end Summary

namespace Session

variable {σ : Type}

/-! ## The end of a session -/

namespace Tallies

variable {s : Session σ} {course : List (Path × Made σ)}

/-- There was nothing to run if all files are loaded and hold no case. -/
theorem isIdle_iff (h : s.Tallies course) :
    s.isIdle = true ↔ s.loadFailed = false ∧ ended course = [] := by
  simp [isIdle, h.executed, and_comm]

theorem allPassed_iff (h : s.Tallies course) :
    s.summary.allPassed = true ↔ ∀ c ∈ counted course, c.status ≠ .failed ∧ c.status ≠ .error := by
  rw [s.summary.allPassed_iff, h.reports]
  exact List.forall_mem_map

/-- A session succeeds if all files are loaded and no case that counts has failed or met an error. -/
theorem succeeded_iff (h : s.Tallies course) :
    s.succeeded = true ↔
      s.loadFailed = false ∧ ∀ c ∈ counted course, c.status ≠ .failed ∧ c.status ≠ .error := by
  rw [succeeded, Bool.or_eq_true, Bool.and_eq_true, h.isIdle_iff, h.allPassed_iff, Bool.not_eq_true']
  constructor
  · rintro (⟨hloaded, hended⟩ | ⟨hpassed, hloaded⟩)
    · -- Without cases there is none that counts.
      have hcounted : counted course = [] := by rw [counted, hended]; rfl
      refine ⟨hloaded, ?_⟩
      rw [hcounted]
      intro c hc
      cases hc
    · exact ⟨hloaded, hpassed⟩
  · rintro ⟨hloaded, hpassed⟩
    exact .inr ⟨hpassed, hloaded⟩

theorem summary_eq (h : s.Tallies course) : s.summary = ⟨(counted course).map Case.report⟩ :=
  congrArg Summary.mk h.reports

/-- What is printed at the end if there was nothing to run, -/
theorem closing_of_idle (h : s.Tallies course) (style : Style) (hidle : s.loadFailed = false ∧ ended course = []) :
    s.closing style = ["No tests to run"] := by
  rw [closing, if_pos (h.isIdle_iff.2 hidle)]
  rfl

/-- and if there was something. -/
theorem closing_of_not_idle (h : s.Tallies course) (style : Style)
    (hidle : ¬ (s.loadFailed = false ∧ ended course = [])) :
    s.closing style = "" :: style.summaryLines ⟨(counted course).map Case.report⟩ := by
  rw [closing, if_neg (mt h.isIdle_iff.1 hidle), h.summary_eq]

end Tallies

/-! ## The cases of a course -/

/-- A file whose cases have run holds a suite that passes the check, and they are those that the suite
declares. -/
theorem MadeFrom.declared {fs : FileSystem} {setting : Setting σ} {path : Path} {f : Path × Made σ}
    (h : MadeFrom fs setting path f) {suite : Suite} {o : Outcome σ} (hmade : f.2 = .ok (suite, o)) :
    Suite.passing? fs path = some suite ∧
      o.cases.map (fun c => (c.id, c.silent)) = suite.cases.map fun d => (d.id, d.silent) := by
  obtain ⟨hload, cases, store, peer, hbuild, rfl⟩ := h.of_ok suite o hmade
  constructor
  · cases hcheck : Suite.check fs path with
    | error e =>
        have := (h.error_iff e).2 hcheck
        rw [hmade] at this
        cases this
    | ok n => simp [Suite.passing?, hload, hcheck]
  · have hruns := silent_reports_runFrom setting.transport setting.baseUrl .empty cases store peer
    rw [reports_runFrom, List.map_map] at hruns
    exact hruns.trans (suite.silent_of_build cases hbuild)

theorem MadeFrom.passing?_of_error {fs : FileSystem} {setting : Setting σ} {path : Path}
    {f : Path × Made σ} (h : MadeFrom fs setting path f) {e : LoadError} (hmade : f.2 = .error e) :
    Suite.passing? fs path = none := by
  have hcheck := (h.error_iff e).1 hmade
  unfold Suite.passing?
  rw [hcheck]
  cases Suite.load fs path <;> rfl

/-- The cases that have had their turns are those that the files that pass the check declare. -/
theorem ended_eq_declared (fs : FileSystem) (setting : Setting σ) (s : Session σ) (files : List Path) :
    (ended (s.course setting (readAll fs files))).map (fun c => (c.id, c.silent)) =
      (files.filterMap (Suite.passing? fs)).flatMap fun suite =>
        suite.cases.map fun d => (d.id, d.silent) := by
  have h := s.forall₂_course fs setting files
  generalize s.course setting (readAll fs files) = course at h
  induction h with
  | nil => rfl
  | @cons path f files course hmade _ ih =>
      rw [ended, List.flatMap_cons, List.map_append, List.filterMap_cons]
      cases hf : f.2 with
      | error e =>
          rw [hmade.passing?_of_error hf]
          exact ih
      | ok made =>
          obtain ⟨suite, o⟩ := made
          obtain ⟨hpassing, hcases⟩ := hmade.declared hf
          rw [hpassing, List.flatMap_cons, ← hcases, ← ih]
          rfl

/-- No case is left waiting. -/
theorem ne_waiting_of_mem_ended (fs : FileSystem) (setting : Setting σ) (s : Session σ)
    (files : List Path) :
    ∀ c ∈ ended (s.course setting (readAll fs files)), c.status ≠ .waiting := by
  have h := s.forall₂_course fs setting files
  generalize s.course setting (readAll fs files) = course at h
  induction h with
  | nil => intro c hc; cases hc
  | @cons path f files course hmade _ ih =>
      intro c hc
      rw [ended, List.flatMap_cons, List.mem_append] at hc
      rcases hc with hc | hc
      · cases hf : f.2 with
        | error e =>
            rw [hf] at hc
            cases hc
        | ok made =>
            obtain ⟨suite, o⟩ := made
            obtain ⟨-, cases, store, peer, -, rfl⟩ := hmade.of_ok suite o hf
            rw [hf] at hc
            exact (c.isFinal_iff_ne_waiting).1
              (isFinal_of_mem_runFrom setting.transport setting.baseUrl .empty cases store peer c hc)
      · exact ih c hc

end Session

namespace Cli

variable {σ : Type}

/-- How the results of a run are printed. -/
def RunRequest.style (r : RunRequest) (w : World σ) : Style :=
  { verbose := r.verbose
    hideSkipped := r.hideSkipped
    verboseErrors := r.verboseErrors
    colors := w.terminal && !r.noColor }

/-- What stays the same in a run of files. -/
def RunRequest.setting (r : RunRequest) (w : World σ) (baseUrl : String) (files : List Path) :
    Setting σ :=
  { transport := w.transport
    baseUrl
    style := r.style w
    titled := decide (1 < files.length) }

/-- A run of files is a session that starts afresh. -/
theorem runFiles_of_baseUrl (w : World σ) (r : RunRequest) (c : Config) (files : List Path)
    {baseUrl : String}
    (hbase : c.resolveBaseUrl r.baseUrl (w.environment.load w.files).lookup = .ok baseUrl) :
    runFiles w r c files =
      let s := (Session.start w.words w.peer).runFiles (r.setting w baseUrl files)
        (Session.readAll w.files files)
      .ofLines s.1.succeeded (s.2 ++ s.1.closing (r.style w)) := by
  unfold runFiles
  rw [hbase]
  rfl

/-- The result of a run whose base URL is known. It succeeds exactly if all files pass the check, and so
are loaded, and no case of them that is not silent has failed or met an error. After what it prints for
each file it tells that there are no tests if all files are loaded and hold no case, and prints a summary
otherwise: a line with the numbers of the cases that are not silent of all loaded files and of those among them
that have passed, failed, were skipped and met an error, and below it the identifiers of the last ones if they are
asked for. The first number is the sum of the others. Only the labels are in colours, on a terminal and unless
colours are turned off. -/
theorem run_result (w : World σ) (r : RunRequest) (c : Config) (files : List Path) (baseUrl : String)
    (hbase : c.resolveBaseUrl r.baseUrl (w.environment.load w.files).lookup = .ok baseUrl) :
    let setting := r.setting w baseUrl files
    let course := (Session.start w.words w.peer).course setting (Session.readAll w.files files)
    let ended := Session.ended course
    let counted := ended.filter fun c => !c.silent
    let number (status : Status) : Nat := counted.countP fun c => c.status = status
    let label (colour text : String) : String :=
      if w.terminal && !r.noColor then "\x1b[" ++ colour ++ "m" ++ text ++ "\x1b[0m" else text
    let summaryLine :=
      label "34" "Tests" ++ ": " ++ toString counted.length ++
        " | " ++ label "32" "Passed" ++ ": " ++ toString (number .passed) ++
        " | " ++ label "31" "Failed" ++ ": " ++ toString (number .failed) ++
        " | " ++ label "90" "Skipped" ++ ": " ++ toString (number .skipped) ++
        " | " ++ label "31" "Error" ++ ": " ++ toString (number .error)
    let errorLines := (counted.filter fun c => c.status = .error).map fun c => label "34" c.id ++ ": ERROR"
    let allLoaded := ¬ ∃ path ∈ files, ∃ e, Suite.check w.files path = .error e
    let succeeded := allLoaded ∧ ∀ c ∈ counted, c.status ≠ .failed ∧ c.status ≠ .error
    let exit := runFiles w r c files
    List.Forall₂ (Session.MadeFrom w.files setting) files course ∧
    ended.map (fun c => (c.id, c.silent)) =
      ((files.filterMap (Suite.passing? w.files)).flatMap fun suite =>
        suite.cases.map fun d => (d.id, d.silent)) ∧
    ((succeeded → exit.code = 0) ∧ (¬ succeeded → exit.code = 1)) ∧
    (∃ closing,
      exit.output = String.join
        (((course.flatMap fun f => Session.linesOf setting f.1 f.2) ++ closing).map fun line => line ++ "\n") ∧
      exit.errors = "" ∧
      (allLoaded ∧ ended = [] → closing = ["No tests to run"]) ∧
      (¬ (allLoaded ∧ ended = []) →
        closing = "" :: summaryLine :: if r.verboseErrors then errorLines else [])) ∧
    counted.length = number .passed + number .failed + number .skipped + number .error := by
  intro setting course ended counted number label summaryLine errorLines allLoaded succeeded exit
  have htally := Session.tallies_runFiles setting w.words w.peer (Session.readAll w.files files)
  have hexit := runFiles_of_baseUrl w r c files hbase
  have hlines := Session.lines_runFiles setting (Session.start w.words w.peer)
    (Session.readAll w.files files)
  generalize (Session.start w.words w.peer).runFiles setting (Session.readAll w.files files) = left
    at htally hexit hlines
  replace hexit : exit = .ofLines left.1.succeeded (left.2 ++ left.1.closing (r.style w)) := hexit
  have hloaded : left.1.loadFailed = false ↔ allLoaded := by
    rw [← Bool.not_eq_true, htally.loadFailed, Session.exists_error_course_iff]
  have hidle : left.1.loadFailed = false ∧ Session.ended course = [] ↔ allLoaded ∧ ended = [] :=
    and_congr_left' hloaded
  have hsucceeded : left.1.succeeded = true ↔ succeeded := by
    rw [htally.succeeded_iff, hloaded]
    rfl
  -- The session sums up reports, the statement cases.
  have hlabel : ∀ colour text, (r.style w).paint [colour] text = label colour text := (r.style w).paint_singleton
  have hnumber : ∀ status, Summary.count ⟨counted.map Case.report⟩ status = number status :=
    Summary.count_report counted
  have htotal : Summary.total ⟨counted.map Case.report⟩ = counted.length := List.length_map ..
  have hsummary : (r.style w).summaryLines ⟨counted.map Case.report⟩ =
      summaryLine :: if r.verboseErrors then errorLines else [] := by
    rw [Style.summaryLines, Style.summaryLine_eq, Style.errorLines_eq, Summary.errorIds_report, List.map_map]
    simp only [hlabel, hnumber, htotal]
    rfl
  refine ⟨Session.forall₂_course .., Session.ended_eq_declared .., ⟨?_, ?_⟩, ?_, ?_⟩
  · intro h
    rw [hexit, hsucceeded.2 h]
    rfl
  · intro h
    rw [hexit, Bool.eq_false_iff.2 (mt hsucceeded.1 h)]
    rfl
  · refine ⟨left.1.closing (r.style w), ?_, ?_, ?_, ?_⟩
    · rw [← hlines, hexit]
      rfl
    · rw [hexit]
      rfl
    · intro h
      exact htally.closing_of_idle (r.style w) (hidle.2 h)
    · intro h
      rw [← hsummary]
      exact htally.closing_of_not_idle (r.style w) (mt hidle.1 h)
  · rw [← htotal, ← hnumber, ← hnumber, ← hnumber, ← hnumber]
    refine Summary.total_eq_sum _ fun report hreport => ?_
    obtain ⟨c', hc', rfl⟩ := List.mem_map.1 hreport
    exact Session.ne_waiting_of_mem_ended w.files setting _ files c' (List.mem_filter.1 hc').1

/-- A silent case that meets an error does not make a run fail and is not counted, but a file that is not there
makes it fail. A suite without cases leaves nothing to sum up. -/
theorem run_result_silent :
    let silent := "tests: [{id: a, method: get, route: /a, silent: true}]\n"
    let loud := "tests: [{id: b, method: get, route: /b}]\n"
    let files : FileSystem :=
      ⟨.directory [("a", .file (Text.Encoded.ofString silent)), ("b", .file (Text.Encoded.ofString loud)),
        ("idle", .file (Text.Encoded.ofString "tests: []\n"))], []⟩
    let peer := Script.empty.append (.get, "/b") (.ok (.ofJson 200 (.string "here")))
    let w : World Script := ⟨files, ⟨fun _ => none, []⟩, ⟨[], 0⟩, Script.transport, peer, false⟩
    let r : RunRequest := ⟨⟨⟨"."⟩, ⟨none, none, false⟩, none⟩, false, false, false, some "http://h", false, true⟩
    let course := (Session.start w.words w.peer).course (r.setting w "http://h" [⟨"a"⟩, ⟨"b"⟩])
      (Session.readAll w.files [⟨"a"⟩, ⟨"b"⟩])
    let endsWith (exit : Exit) (closing : List String) : Prop :=
      ∃ before, exit.output = String.join ((before ++ closing).map fun line => line ++ "\n")
    (Session.ended course).map (fun c => (c.status, c.silent)) = [(.error, true), (.passed, false)] ∧
      (runFiles w r .standard [⟨"a"⟩, ⟨"b"⟩]).code = 0 ∧
      endsWith (runFiles w r .standard [⟨"a"⟩, ⟨"b"⟩])
        ["", "Tests: 1 | Passed: 1 | Failed: 0 | Skipped: 0 | Error: 0"] ∧
      (runFiles w r .standard [⟨"a"⟩, ⟨"none"⟩]).code = 1 ∧
      endsWith (runFiles w r .standard [⟨"idle"⟩]) ["No tests to run"] := by
  intro silent loud files peer w r course endsWith
  have hbase : Config.standard.resolveBaseUrl r.baseUrl (w.environment.load w.files).lookup =
      .ok "http://h" := by
    decide +kernel
  have hloaded : ∀ paths : List Path, (paths.all fun path => (Suite.check w.files path).isOk) = true →
      ¬ ∃ path ∈ paths, ∃ e, Suite.check w.files path = .error e := by
    rintro paths hall ⟨path, hpath, e, he⟩
    have hok := List.all_eq_true.1 hall path hpath
    rw [he] at hok
    cases hok
  have hlaw := run_result w r .standard [⟨"a"⟩, ⟨"b"⟩] "http://h" hbase
  extract_lets setting course' ended counted number label summaryLine errorLines allLoaded succeeded exit at hlaw
  obtain ⟨-, -, ⟨hcode, -⟩, ⟨closing, houtput, -, -, hclosing⟩, -⟩ := hlaw
  have hended : ended.map (fun c => (c.status, c.silent)) = [(.error, true), (.passed, false)] := by
    decide +kernel
  have hcases : ¬ ended = [] := by
    intro hnone
    rw [hnone] at hended
    cases hended
  -- The rest follows from these statuses, so that the suites are read and run only once in the kernel.
  have hcounted : counted.map Case.status = [.passed] := by
    have hkept := congrArg (fun l => (l.filter fun s => !s.2).map Prod.fst) hended
    rwa [List.filter_map, List.map_map] at hkept
  have hpassed : ∀ c ∈ counted, c.status = .passed := by
    intro c hc
    have hmem : c.status ∈ counted.map Case.status := List.mem_map_of_mem hc
    rw [hcounted] at hmem
    exact List.mem_singleton.1 hmem
  have hnumber : ∀ status, number status = [Status.passed].countP (· = status) := by
    intro status
    rw [← hcounted, List.countP_map]
    rfl
  have hlength : counted.length = 1 := by
    rw [← List.length_map, hcounted]
    rfl
  have hline : summaryLine = "Tests: 1 | Passed: 1 | Failed: 0 | Skipped: 0 | Error: 0" := by
    simp only [summaryLine, hnumber, hlength]
    decide
  have hmissing := run_result w r .standard [⟨"a"⟩, ⟨"none"⟩] "http://h" hbase
  obtain ⟨-, -, ⟨-, hmissing⟩, -⟩ := hmissing
  have hidle := run_result w r .standard [⟨"idle"⟩] "http://h" hbase
  obtain ⟨-, -, -, ⟨closing', houtput', -, hidle, -⟩, -⟩ := hidle
  refine ⟨hended, ?_, ?_, ?_, ?_⟩
  · refine hcode ⟨hloaded _ (by decide +kernel), ?_⟩
    intro c hc
    rw [hpassed c hc]
    decide
  · rw [hclosing fun h => hcases h.2, hline] at houtput
    exact ⟨_, houtput⟩
  · exact hmissing fun h => h.1 ⟨⟨"none"⟩, List.mem_cons_of_mem _ List.mem_cons_self, _, rfl⟩
  · rw [hidle ⟨hloaded _ (by decide +kernel), List.isEmpty_iff.1 (by decide +kernel)⟩] at houtput'
    exact ⟨_, houtput'⟩

end Cli

end Probe
