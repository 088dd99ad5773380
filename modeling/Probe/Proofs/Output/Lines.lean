import Probe.Output
import Probe.Proofs.Case.Verdict
import Probe.Proofs.Run.Turns

/-!
# Printed reports

The lines of a report are put together by two rules that do not look at each other: one says whether the
report has a line for its result, the other whether its response is printed below. Only a failed assertion
keeps a response, and a failed case always has a line for its result, so that no response stands alone. But
an assertion on the content type keeps none: such a failure is not explained. Main statements:

* `response_judge`: what a judgement keeps of a response.
* `explanation_law`: what is printed of an execution that was answered.
* `unexplained_failure`: a failure without an explanation.
* `Report.Ended.shows_iff`: when a report of a run has a line for its result.
* `Report.Ended.responseText?`: when there is a text below it.
* `printed_law`: the lines of all reports of a run.
-/

namespace Probe

/-! ## What a judgement keeps -/

/-- The text that explains a failed assertion on a response: its body, if it is declared as JSON and can be
read, and a notice otherwise. -/
inductive Response.ExplainedBy (r : Response) : String → Prop where
  | body {body : Json.Value} (hjson : r.isJson = true) (hread : r.json = .ok body) :
      ExplainedBy r body.pretty
  | notice (h : ∀ body, r.isJson = true → r.json ≠ .ok body) :
      ExplainedBy r "RESPONSE NOT JSON - NO VERBOSE AVAILABLE"

theorem Response.dump_of_json {r : Response} {body : Json.Value} (hjson : r.isJson = true)
    (hread : r.json = .ok body) : r.dump = .json body := by
  simp [dump, hjson, hread]

/-- What is kept of a response is printed as what explains it. -/
theorem Response.exists_explainedBy (r : Response) (style : Style) (report : Report)
    (hverbose : style.verbose = true) (hkept : report.response = some r.dump) :
    ∃ text, r.ExplainedBy text ∧ style.responseText? report = some text := by
  cases hjson : r.isJson with
  | false =>
      exact ⟨_, .notice (by simp [hjson]),
        by simp [Style.responseText?, Style.notJsonNotice, hverbose, hkept, dump, hjson]⟩
  | true =>
      cases hread : r.json with
      | error e =>
          exact ⟨_, .notice (by simp [hread]),
            by simp [Style.responseText?, Style.notJsonNotice, hverbose, hkept, dump, hjson, hread]⟩
      | ok body =>
          exact ⟨_, .body hjson hread,
            by simp [Style.responseText?, hverbose, hkept, dump_of_json hjson hread]⟩

namespace Case

theorem response_judgeBody (c : Case) (body : Json.Value) (store : Store) :
    (c.judgeBody body store).1.response =
      if (c.judgeBody body store).1.status = .failed then some (.json body) else none := by
  unfold judgeBody
  split
  · split <;> rfl
  · split <;> rfl

theorem firstFailure_notJson_iff (c : Case) (r : Response) (store : Store) :
    c.FirstFailure r store .notJson ↔ c.statusFailure? r = none ∧ r.isJson = false := by
  rw [statusFailure?_eq_none_iff]
  constructor
  · intro h
    cases h with
    | notJson hexpected hforbidden hjson => exact ⟨⟨hexpected, hforbidden⟩, hjson⟩
  · rintro ⟨⟨hexpected, hforbidden⟩, hjson⟩
    exact .notJson hexpected hforbidden hjson

/-- A judgement that fails keeps the response, unless it is by the content type that the response fails. No
other judgement keeps anything. -/
theorem response_judge (c : Case) (r : Response) (store : Store) :
    (c.judge r store).1.response =
      if (c.judge r store).1.status = .failed ∧ ¬ (c.statusFailure? r = none ∧ r.isJson = false)
      then some r.dump else none := by
  unfold judge
  cases c.statusFailure? r with
  | some why => simp [Ending.failed]
  | none =>
      cases hjson : r.isJson with
      | false => simp [Ending.failed]
      | true =>
          cases hread : r.json with
          | error e => simp [Ending.error]
          | ok body => simp [response_judgeBody, Response.dump_of_json hjson hread]

end Case

/-! ## What is printed of an execution -/

namespace Style

variable (style : Style) {r : Report}

theorem reportLines_of_failed (h : r.status = .failed) :
    style.reportLines r = style.reportLine r :: (style.responseText? r).toList := by
  simp [reportLines, shows, h]

/-- Without a response there is at most the line of the result. -/
theorem reportLines_of_no_response (h : r.response = none) :
    style.reportLines r = if style.shows r then [style.reportLine r] else [] := by
  simp [reportLines, responseText?, h]

end Style

/-- What is printed, with responses, of an execution that was answered by a response. If it fails, the line
of the result is followed by one text, which explains the response; but a failure by the content type has
only the line of the result. If it passes or meets an error, there is at most the line of the result. -/
theorem explanation_law {σ : Type} (transport : Transport σ) (base : String) (style : Style) (c : Case)
    (store : Store) (s : σ) (request : Request) (r : Response) (hverbose : style.verbose = true)
    (hw : c.status = .waiting) (hr : c.request base store = .ok request)
    (hs : (transport.send request s).1 = .ok r) :
    let ended := (c.execute transport base store s).1
    let line := style.reportLine ended.report
    let lines := style.reportLines ended.report
    ended.status.IsVerdict ∧
    (ended.status = .failed →
      (¬ c.FirstFailure r store .notJson → ∃ text, r.ExplainedBy text ∧ lines = [line, text]) ∧
      (c.FirstFailure r store .notJson → lines = [line])) ∧
    (ended.status = .error → lines = [line]) ∧
    (ended.status = .passed → lines = if c.silent then [] else [line]) := by
  intro ended line lines
  have hexecute := Case.execute_of_request transport base c store s (c.not_isFinal_of_waiting hw) hr
  rw [hs] at hexecute
  have hended : ended = c.finish (c.judge r store).1 := congrArg Prod.fst hexecute
  have hresponse : ended.report.response = (c.judge r store).1.response := by rw [hended]; rfl
  have hstatus : ended.report.status = (c.judge r store).1.status := by rw [hended]; rfl
  have hsilent : ended.report.silent = c.silent := by rw [hended]; rfl
  have hkept := c.response_judge r store
  rw [← hresponse, ← hstatus] at hkept
  have hkind := c.firstFailure_notJson_iff r store
  refine ⟨c.isVerdict_execute transport base store s hw, ?_, ?_, ?_⟩
  · intro hfailed
    have hlines : lines = line :: (style.responseText? ended.report).toList :=
      style.reportLines_of_failed hfailed
    constructor
    · intro hother
      rw [if_pos ⟨hfailed, fun h => hother (hkind.2 h)⟩] at hkept
      obtain ⟨text, hexplained, htext⟩ := r.exists_explainedBy style ended.report hverbose hkept
      exact ⟨text, hexplained, by rw [hlines, htext]; rfl⟩
    · intro hnotJson
      rw [if_neg fun h => h.2 (hkind.1 hnotJson)] at hkept
      rw [hlines, Style.responseText?, hkept, Option.map_none, ite_self]
      rfl
  · intro herror
    have hstatus : ended.report.status = .error := herror
    rw [if_neg fun h => by rw [hstatus] at h; cases h.1] at hkept
    have hlines := style.reportLines_of_no_response hkept
    rwa [Style.shows, hstatus] at hlines
  · intro hpassed
    have hstatus : ended.report.status = .passed := hpassed
    rw [if_neg fun h => by rw [hstatus] at h; cases h.1] at hkept
    have hlines := style.reportLines_of_no_response hkept
    rw [Style.shows, hstatus, hsilent] at hlines
    cases hs : c.silent <;> simpa [hs] using hlines

/-- A response whose status is refused is explained by its body. -/
theorem explanation_law_status :
    let c := (Case.new "t" .get "/t").expectStatus 200
    let body : Json.Value := .object [("reason", .string "gone")]
    let peer := Script.empty.append (.get, "/t") (.ok (.ofJson 404 body))
    let style : Style := { Style.plain with verbose := true }
    let ended := (c.execute Script.transport "http://h" .empty peer).1
    let request : Request :=
      { method := .get, url := "http://h/t", headers := [("Content-Type", "application/json")], body := none }
    c.status = .waiting ∧ c.request "http://h" .empty = .ok request ∧
      (Script.transport.send request peer).1 = .ok (.ofJson 404 body) ∧ ended.status = .failed ∧
      ∃ text, (Response.ofJson 404 body).ExplainedBy text ∧
        style.reportLines ended.report = ["FAILED t - Expected status 200, got 404", text] := by
  intro c body peer style ended request
  have hr : c.request "http://h" .empty = .ok request := eq_ok_of_toOption (by decide +kernel)
  have hs : (Script.transport.send request peer).1 = .ok (.ofJson 404 body) :=
    eq_ok_of_toOption (by decide +kernel)
  have hfailed : ended.status = .failed := by decide +kernel
  have hline : style.reportLine ended.report = "FAILED t - Expected status 200, got 404" := by decide +kernel
  obtain ⟨-, hlaw, -, -⟩ :=
    explanation_law Script.transport "http://h" style c .empty peer request (.ofJson 404 body) rfl rfl hr hs
  have hkind : ¬ c.FirstFailure (.ofJson 404 body) .empty .notJson := by
    rw [c.firstFailure_notJson_iff]
    decide +kernel
  obtain ⟨text, hexplained, hlines⟩ := (hlaw hfailed).1 hkind
  exact ⟨rfl, hr, hs, hfailed, text, hexplained, hline ▸ hlines⟩

/-- A failed assertion on the content type is not explained: of a response that is no JSON, nothing is said
below the result. -/
theorem unexplained_failure :
    let c := Case.new "t" .get "/t"
    let r := (Response.ofStatus 200).withHeader "content-type" "text/plain"
    let peer := Script.empty.append (.get, "/t") (.ok r)
    let style : Style := { Style.plain with verbose := true }
    let ended := (c.execute Script.transport "http://h" .empty peer).1
    c.status = .waiting ∧ r.isJson = false ∧ ended.status = .failed ∧
      style.reportLines ended.report = ["FAILED t - Response is not JSON"] ∧
      ¬ ∃ text, r.ExplainedBy text ∧
        style.reportLines ended.report = ["FAILED t - Response is not JSON", text] := by
  intro c r peer style ended
  have hlines : style.reportLines ended.report = ["FAILED t - Response is not JSON"] := by decide +kernel
  refine ⟨rfl, by decide +kernel, by decide +kernel, hlines, ?_⟩
  rintro ⟨text, -, hexplained⟩
  rw [hlines] at hexplained
  simp at hexplained

/-! ## What is printed of a run -/

/-- A report of a case that has had its turn: it is final, and keeps a response only of a failed
assertion. -/
structure Report.Ended (r : Report) : Prop where
  isFinal : r.status.isFinal = true
  of_response : r.response ≠ none → r.status = .failed

/-- Any verdict makes such a report. -/
theorem Case.ended_finish (c : Case) {e : Ending} (he : e.IsVerdict) : (c.finish e).report.Ended := by
  refine ⟨he.status.isFinal, fun hresponse => ?_⟩
  cases he with
  | passed => exact absurd rfl hresponse
  | failed why response => rfl
  | error why => exact absurd rfl hresponse

section

variable {σ : Type} (transport : Transport σ) (base : String)

theorem ended_turn (statuses : Statuses) (c : Case) (store : Store) (s : σ) (hw : c.status = .waiting) :
    ∀ r ∈ (turn transport base statuses c store s).reports, r.Ended := by
  obtain ⟨c', hcases, -, hreports⟩ := exists_turn transport base statuses c store s
  rw [hreports, List.forall_mem_singleton]
  cases hb : c.blocker? statuses with
  | some d =>
      rw [turn_of_blocker transport base statuses c store s d hb, List.singleton_inj] at hcases
      rw [← hcases, c.skip_of_waiting d hw]
      exact ⟨rfl, fun hresponse => absurd rfl hresponse⟩
  | none =>
      rw [turn_of_free transport base statuses c store s hb, List.singleton_inj] at hcases
      obtain ⟨e, he, hended⟩ := c.exists_verdict transport base store s hw
      rw [← hcases, hended]
      exact c.ended_finish he

theorem ended_runFrom (statuses : Statuses) (cases : List Case) (store : Store) (s : σ)
    (hw : ∀ c ∈ cases, c.status = .waiting) :
    ∀ r ∈ (runFrom transport base statuses cases store s).reports, r.Ended := by
  induction cases generalizing statuses store s with
  | nil => intro r hr; cases hr
  | cons c rest ih =>
      obtain ⟨hc, hrest⟩ := List.forall_mem_cons.1 hw
      intro r hr
      rw [runFrom, Outcome.reports_append, List.mem_append] at hr
      rcases hr with hr | hr
      · exact ended_turn transport base statuses c store s hc r hr
      · exact ih _ _ _ hrest r hr

end

/-- A report is hidden: it is that of a silent case that has passed, or of a skipped case that is silent or
that the style leaves out. -/
def Style.Hides (style : Style) (r : Report) : Prop :=
  r.status = .passed ∧ r.silent = true ∨
    r.status = .skipped ∧ (r.silent = true ∨ style.hideSkipped = true)

/-- A report of a case that has had its turn is hidden or has a line for its result. -/
theorem Report.Ended.shows_iff {r : Report} (h : r.Ended) (style : Style) :
    style.shows r = true ↔ ¬ style.Hides r := by
  have hfinal := h.isFinal
  unfold Style.shows Style.Hides
  cases hstatus : r.status with
  | waiting => rw [hstatus] at hfinal; cases hfinal
  | _ => simp

/-- Nothing but the line of a result is printed of such a report, unless it is that of a failed assertion. -/
theorem Report.Ended.responseText? {r : Report} (h : r.Ended) (style : Style)
    (htext : style.responseText? r ≠ none) : style.verbose = true ∧ r.status = .failed := by
  unfold Style.responseText? at htext
  split at htext
  · next hverbose =>
      refine ⟨hverbose, h.of_response fun hnone => htext ?_⟩
      rw [hnone, Option.map_none]
  · exact absurd rfl htext

/-- What is printed of any report of a run of waiting cases. Nothing is printed of a hidden one. Of any other
the first line is that of its result, and there is at most one more, which only a failed assertion has when
responses are printed. Failures and errors are never hidden. -/
theorem printed_law {σ : Type} (transport : Transport σ) (base : String) (cases : List Case) (store : Store)
    (s : σ) (hw : ∀ c ∈ cases, c.status = .waiting) (style : Style) :
    ∀ r ∈ (runCases transport base cases store s).reports,
      (style.reportLines r = [] ↔
        r.status = .passed ∧ r.silent = true ∨
          r.status = .skipped ∧ (r.silent = true ∨ style.hideSkipped = true)) ∧
      (style.reportLines r ≠ [] → ∃ more, style.reportLines r = style.reportLine r :: more ∧
        more.length ≤ 1 ∧ (more ≠ [] → style.verbose = true ∧ r.status = .failed)) ∧
      (r.status = .failed ∨ r.status = .error → style.reportLines r ≠ []) := by
  intro r hr
  have hended : r.Ended := ended_runFrom transport base .empty cases store s hw r hr
  have hshows := hended.shows_iff style
  by_cases hhidden : style.Hides r
  · -- A hidden report is not that of a failure, so that it has no response to print.
    have hnone : style.responseText? r = none := by
      refine Classical.byContradiction fun htext => ?_
      have hfailed := (hended.responseText? style htext).2
      rcases hhidden with ⟨hstatus, -⟩ | ⟨hstatus, -⟩ <;> cases hstatus.symm.trans hfailed
    have hlines : style.reportLines r = [] := by
      rw [Style.reportLines, if_neg (fun h => hshows.1 h hhidden), hnone]
      rfl
    refine ⟨iff_of_true hlines hhidden, fun hne => absurd hlines hne, ?_⟩
    intro hstatus
    rcases hhidden with ⟨hhidden, -⟩ | ⟨hhidden, -⟩ <;> rw [hhidden] at hstatus <;>
      rcases hstatus with hstatus | hstatus <;> cases hstatus
  · have hlines : style.reportLines r = style.reportLine r :: (style.responseText? r).toList := by
      rw [Style.reportLines, if_pos (hshows.2 hhidden)]
      rfl
    have hne : style.reportLines r ≠ [] := by
      rw [hlines]
      exact List.cons_ne_nil _ _
    refine ⟨iff_of_false hne hhidden, fun _ => ⟨_, hlines, ?_, ?_⟩, fun _ => hne⟩
    · cases style.responseText? r <;> simp
    · intro hmore
      exact hended.responseText? style fun hnone => hmore (by rw [hnone]; rfl)

/-- A silent case fails, and the case that depends on it is skipped: of the first both lines are printed, of
the other one nothing. -/
theorem printed_law_silent :
    let a := ((Case.new "a" .get "/a").expectStatus 201).silence
    let b := (Case.new "b" .get "/b").dependsOn "a"
    let peer := Script.empty.append (.get, "/a") (.ok (.ofJson 200 (.string "late")))
    let style : Style := { Style.plain with verbose := true, hideSkipped := true }
    let o := runCases Script.transport "http://h" [a, b] .empty peer
    (∀ c ∈ [a, b], c.status = .waiting) ∧
      ∃ r r', o.reports = [r, r'] ∧ r.status = .failed ∧ r.silent = true ∧ r'.status = .skipped ∧
        style.reportLines r = ["FAILED a - Expected status 201, got 200", "\"late\""] ∧
        style.reportLines r ≠ [] ∧ style.reportLines r' = [] := by
  intro a b peer style o
  have hw : ∀ c ∈ [a, b], c.status = .waiting := by decide
  have hlaw := printed_law Script.transport "http://h" [a, b] .empty peer hw style
  have hlength : o.reports.length = 2 := by decide +kernel
  have hstatus : o.reports.map Report.status = [.failed, .skipped] := by decide +kernel
  have hsilent : o.reports.map Report.silent = [true, false] := by decide +kernel
  have hlines : (o.reports.map style.reportLines).head? =
      some ["FAILED a - Expected status 201, got 200", "\"late\""] := by decide +kernel
  obtain ⟨r, r', hreports⟩ := List.length_eq_two.1 hlength
  rw [hreports] at hstatus hsilent hlines
  have hfailed : r.status = .failed := by simpa using congrArg List.head? hstatus
  have hskipped : r'.status = .skipped := by simpa using congrArg List.getLast? hstatus
  have hr : r ∈ o.reports := by simp [hreports]
  have hr' : r' ∈ o.reports := by simp [hreports]
  exact ⟨hw, r, r', hreports, hfailed, by simpa using congrArg List.head? hsilent, hskipped,
    by simpa using hlines, (hlaw r hr).2.2 (.inl hfailed), (hlaw r' hr').1.2 (.inr ⟨hskipped, .inr rfl⟩)⟩

end Probe
