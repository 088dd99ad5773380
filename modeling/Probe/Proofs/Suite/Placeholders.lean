import Probe.Proofs.Case.Request
import Probe.Proofs.Suite.Built

/-!
# Placeholders without parameters

A route whose placeholders have no parameters is noticed twice: when a declaration is built, which flags the case,
and when a request is composed. The flag is looked at first, so it also hides a token that is missing. Main
statements:

* `CaseDecl.assemble_eq_unflagged`: what is built is what the steps of the builder make, flag apart.
* `CaseDecl.Declares.flaw_eq_some_iff`, `Case.resolveRoute?_eq_none_iff`: both checks look for the same.
* `Case.execute_of_missing`: how a case ends that is not flagged.
* `CaseDecl.Declares.ends_alike`: an execution with the flag beside one without it.
* `CaseDecl.placeholder_law`: the two checks agree, and what hangs on which one it is.
-/

namespace Probe

open Probe.Text

/-! ## Builders -/

/-- The case of a declaration, made in the steps of the builder. Nobody looks at the route. -/
def CaseDecl.assemble (d : CaseDecl) (m : Method) : Case :=
  let c := (((Case.new d.id m d.route).withParams d.params).withRouteParams d.routeParams).withExpected d.expected
  let c := if d.guarded then c.guard else c
  let c := if d.silent then c.silence else c
  let c := d.dependsOn.foldl Case.dependsOn c
  let c := match d.expectedStatus with
    | some status => c.expectStatus status
    | none => c
  let c := match d.forbiddenStatus with
    | some status => c.forbidStatus status
    | none => c
  if d.shown.isEmpty then c else c.onComplete ⟨d.shown⟩

theorem Case.foldl_dependsOn (c : Case) (ids : List String) :
    ids.foldl Case.dependsOn c = { c with dependencies := c.dependencies ++ ids } := by
  induction ids generalizing c with
  | nil => rw [List.foldl_nil, List.append_nil]
  | cons id ids ih => rw [List.foldl_cons, ih, dependsOn, List.append_assoc, List.singleton_append]

theorem CaseDecl.assemble_eq_outline (d : CaseDecl) (m : Method) : d.assemble m = d.outline m := by
  obtain ⟨id, name, route, guarded, dependsOn, params, routeParams, expected, status, forbidden, silent, shown⟩ := d
  simp only [assemble, Case.foldl_dependsOn]
  -- What is left is whether each of the optional steps is made.
  cases guarded <;> cases silent <;> cases status <;> cases forbidden <;> cases shown <;> rfl

theorem CaseDecl.assemble_eq_unflagged {d : CaseDecl} {c : Case} {m : Method} (h : d.build = .ok c)
    (hm : Method.ofName? d.method = some m) : d.assemble m = { c with flaw := none } := by
  rw [d.build_of_method hm, Except.ok.injEq] at h
  rw [d.assemble_eq_outline]
  split at h <;> subst h <;> rfl

/-! ## Missing parameters -/

theorem Case.resolveRoute?_eq_none_iff {c : Case} {store : Store} :
    c.resolveRoute? store = none ↔ c.missingRouteParams ≠ [] := by
  simp [resolveRoute?]

theorem CaseDecl.Declares.flaw_eq_some_iff {d : CaseDecl} {c : Case} (h : d.Declares c) :
    c.flaw = some "Missing parameters" ↔ c.missingRouteParams ≠ [] := by
  rw [h.flaw]
  simp [Obstacle.message]

theorem CaseDecl.Declares.flaw_eq_none {d : CaseDecl} {c : Case} (h : d.Declares c)
    (hparams : c.missingRouteParams = []) : c.flaw = none := by
  rw [h.flaw, if_pos (List.isEmpty_iff.2 hparams)]

theorem Case.missingRouteParams_ne_nil_iff_exists_cut (c : Case) :
    c.missingRouteParams ≠ [] ↔ ∃ segments segment name, IsCut '/' c.route.toList segments ∧ segment ∈ segments ∧
      Names segment name ∧ c.routeParams.get? name = none := by
  rw [missingRouteParams_ne_nil_iff]
  constructor
  · rintro ⟨segment, hsegment, name, hname, hparam⟩
    exact ⟨c.segments, segment, name, c.isCut_segments, hsegment, hname, hparam⟩
  · rintro ⟨segments, segment, name, hcut, hsegment, hname, hparam⟩
    -- A text has only one cut.
    obtain rfl := isCut_iff.1 hcut
    exact ⟨segment, hsegment, name, hname, hparam⟩

/-- A waiting case without a flag that lacks a parameter ends in an error: for the token, if that is missing, and for
the parameter otherwise. -/
theorem Case.execute_of_missing {σ : Type} (transport : Transport σ) (base : String) {c : Case} (store : Store) (s : σ)
    (hw : c.status = .waiting) (hflaw : c.flaw = none) (hmissing : c.missingRouteParams ≠ []) :
    ∃ why, c.execute transport base store s = (c.finish (.error why), store, s) ∧
      (why.message = "Missing parameters" ↔ ¬ (c.guarded = true ∧ store.get? "TOKEN" = none)) := by
  have hfinal := c.not_isFinal_of_waiting hw
  rcases c.headed_or_not store with ⟨hguarded, htoken⟩ | ⟨headers, hheaded⟩
  · have hrequest := request_of_token_missing base hflaw hguarded htoken
    refine ⟨.tokenMissing, execute_of_obstacle transport base c store s hfinal hrequest, ?_⟩
    exact iff_of_false (by decide) (not_not_intro ⟨hguarded, htoken⟩)
  · have hrequest : c.request base store = .error .parametersMissing := by
      rw [request_of_headed base hflaw hheaded, resolveRoute?_eq_none_iff.2 hmissing]
    refine ⟨.parametersMissing, execute_of_obstacle transport base c store s hfinal hrequest, ?_⟩
    exact iff_of_true rfl fun ⟨hguarded, htoken⟩ => hheaded.token_ne_none hguarded htoken

/-- With its flag and without it, a case ends in the same status and leaves the same behind. A missing parameter is
worded in both ways, unless the token is missing too. -/
theorem CaseDecl.Declares.ends_alike {σ : Type} (transport : Transport σ) (base : String) (store : Store) (s : σ)
    {d : CaseDecl} {c : Case} (hd : d.Declares c) :
    let o := c.execute transport base store s
    let o' := { c with flaw := none }.execute transport base store s
    o.1.status = o'.1.status ∧ o.2 = o'.2 ∧
      (o.1.state.message = o'.1.state.message ↔
        ¬ (c.missingRouteParams ≠ [] ∧ c.guarded = true ∧ store.get? "TOKEN" = none)) := by
  intro o o'
  by_cases hmissing : c.missingRouteParams = []
  · -- There is no flag, so this is one and the same case.
    have hsame : c = { c with flaw := none } := by rw [← hd.flaw_eq_none hmissing]
    have ho : o = o' := congrArg (fun c : Case => c.execute transport base store s) hsame
    rw [ho]
    exact ⟨rfl, rfl, iff_of_true rfl fun hlost => hlost.1 hmissing⟩
  · have hw : c.status = .waiting := congrArg State.status hd.state
    have hrequest : c.request base store = .error (.flaw "Missing parameters") := by
      rw [Case.request, hd.flaw_eq_some_iff.2 hmissing]
    have ho : o = (c.finish (.error (.flaw "Missing parameters")), store, s) :=
      Case.execute_of_obstacle transport base c store s (c.not_isFinal_of_waiting hw) hrequest
    obtain ⟨why, ho', hmessage⟩ :=
      Case.execute_of_missing transport base (c := { c with flaw := none }) store s hw rfl hmissing
    change o' = _ at ho'
    rw [ho, ho', and_iff_right hmissing, ← hmessage]
    exact ⟨rfl, rfl, eq_comm⟩

/-- The flag of a case that is built agrees with its route: it is there exactly if the route cannot be filled,
which is so for all variables or for none, as it says only that some segment is a placeholder without a
parameter. Without the flag the case is the one that the builder makes, and its execution ends in the same status,
sends the same requests and leaves the same variables. The message is another one exactly if a missing
parameter hides a missing token. -/
theorem CaseDecl.placeholder_law {σ : Type} (transport : Transport σ) (base : String) (store : Store) (s : σ)
    {d : CaseDecl} {c : Case} (h : d.build = .ok c) :
    ∃ m, Method.ofName? d.method = some m ∧
      let plain := d.assemble m
      let flagged := c.flaw = some "Missing parameters"
      let o := c.execute transport.recording base store (s, [])
      let o' := plain.execute transport.recording base store (s, [])
      (flagged ↔ ∀ store, c.resolveRoute? store = none) ∧ (flagged ↔ ∃ store, c.resolveRoute? store = none) ∧
      (flagged ↔ ∃ segments segment name, IsCut '/' d.route.toList segments ∧ segment ∈ segments ∧
        Case.Names segment name ∧ d.routeParams.get? name = none) ∧
      plain = { c with flaw := none } ∧ o.1.status = o'.1.status ∧ o.2 = o'.2 ∧
      (o.1.state.message = o'.1.state.message ↔
        ¬ (flagged ∧ c.guarded = true ∧ store.get? "TOKEN" = none)) := by
  have hd := d.declares_of_build c h
  have hflagged := hd.flaw_eq_some_iff
  refine ⟨c.method, hd.method, ?_⟩
  intro plain flagged o o'
  have hplain : plain = { c with flaw := none } := assemble_eq_unflagged h hd.method
  have hroute : ∀ store, flagged ↔ c.resolveRoute? store = none := fun _ =>
    hflagged.trans Case.resolveRoute?_eq_none_iff.symm
  have hsegments := hflagged.trans c.missingRouteParams_ne_nil_iff_exists_cut
  rw [hd.route, hd.routeParams] at hsegments
  have hends := hd.ends_alike transport.recording base store (s, [])
  rw [← hplain, ← hflagged] at hends
  exact ⟨⟨fun hf store => (hroute store).1 hf, fun hall => (hroute .empty).2 (hall .empty)⟩,
    ⟨fun hf => ⟨.empty, (hroute .empty).1 hf⟩, fun ⟨store, hnone⟩ => (hroute store).2 hnone⟩, hsegments, hplain, hends⟩

/-- Only the first of three segments with a colon is a placeholder without a parameter. Without a token the flag
changes the message; with one it changes nothing. -/
theorem CaseDecl.placeholder_law_guarded :
    let d : CaseDecl := { CaseDecl.empty with id := "show", method := "get", route := "/:id/:/a:b", guarded := true }
    let c := (Case.new "show" .get "/:id/:/a:b").guard.flag "Missing parameters"
    let ending (c : Case) (store : Store) : Case := (c.execute Script.transport.recording "" store (Script.empty, [])).1
    d.build = .ok c ∧ (∀ store, c.resolveRoute? store = none) ∧
      (ending c .empty).state.message ≠ (ending (d.assemble .get) .empty).state.message ∧
      (ending c (Store.set .empty "TOKEN" "t")).state.message =
        (ending (d.assemble .get) (Store.set .empty "TOKEN" "t")).state.message := by
  intro d c ending
  have hget : Method.ofName? d.method = some .get := by decide +kernel
  have hbuild : d.build = .ok c := by
    rw [d.build_of_method hget, if_neg (by decide +kernel)]
    rfl
  obtain ⟨m, hm, hroute, -, -, -, -, -, hlost⟩ := placeholder_law Script.transport "" .empty Script.empty hbuild
  obtain ⟨m', hm', -, -, -, -, -, -, hkept⟩ :=
    placeholder_law Script.transport "" (Store.set .empty "TOKEN" "t") Script.empty hbuild
  obtain rfl : Method.get = m := Option.some.inj (hget.symm.trans hm)
  obtain rfl : Method.get = m' := Option.some.inj (hget.symm.trans hm')
  refine ⟨hbuild, hroute.1 rfl, fun hsame => hlost.1 hsame ⟨rfl, rfl, by decide +kernel⟩, hkept.2 fun hlost => ?_⟩
  exact absurd hlost.2.2 (by decide +kernel)

end Probe
