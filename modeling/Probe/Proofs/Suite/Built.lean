import Probe.Proofs.Except
import Probe.Proofs.Suite.Faults

/-!
# Cases built from a suite

A suite that can be built has one case for each declaration, in the order of the declarations, and each
case says what its declaration says. Setting up a suite for a run means to set its variables and to build
its cases; it fails as checking the suite does. Main statements:

* `CaseDecl.declares_of_build`: what a declaration is built into.
* `Suite.build_eq_ok_iff`: what a suite is built into.
* `Suite.validate_eq_error_iff_setUp`: a suite is refused when it is checked and when it is set up for the
  same fault.
-/

namespace Probe

/-! ## Declarations -/

/-- A case says what its declaration says and waits for its turn. It is flawed exactly if its route has
placeholders without parameters. -/
structure CaseDecl.Declares (d : CaseDecl) (c : Case) : Prop where
  id : c.id = d.id
  method : Method.ofName? d.method = some c.method
  route : c.route = d.route
  guarded : c.guarded = d.guarded
  routeParams : c.routeParams = d.routeParams
  params : c.params = d.params
  expected : c.expected = d.expected
  expectedStatus : c.expectedStatus = d.expectedStatus
  forbiddenStatus : c.forbiddenStatus = d.forbiddenStatus
  dependencies : c.dependencies = d.dependsOn
  silent : c.silent = d.silent
  hook : c.hook = if d.shown.isEmpty then none else some ⟨d.shown⟩
  flaw : c.flaw =
    if c.missingRouteParams.isEmpty then none else some Obstacle.parametersMissing.message
  state : c.state = .waiting

/-- What a declaration says, as a case of a method. -/
def CaseDecl.outline (d : CaseDecl) (m : Method) : Case :=
  { Case.new d.id m d.route with
    guarded := d.guarded
    routeParams := d.routeParams
    params := d.params
    expected := d.expected
    expectedStatus := d.expectedStatus
    forbiddenStatus := d.forbiddenStatus
    dependencies := d.dependsOn
    silent := d.silent
    hook := if d.shown.isEmpty then none else some ⟨d.shown⟩ }

theorem CaseDecl.build_of_method (d : CaseDecl) {m : Method} (h : Method.ofName? d.method = some m) :
    d.build =
      .ok (if (d.outline m).missingRouteParams.isEmpty then d.outline m
        else (d.outline m).flag Obstacle.parametersMissing.message) := by
  unfold build
  rw [Method.parse, h]
  rfl

/-- Flagged exactly if a parameter is missing, the outline says what its declaration says. -/
theorem CaseDecl.declares_outline (d : CaseDecl) {m : Method} {flaw : Option String}
    (hm : Method.ofName? d.method = some m)
    (hflaw : flaw = if (d.outline m).missingRouteParams.isEmpty then none
      else some Obstacle.parametersMissing.message) :
    d.Declares { d.outline m with flaw } where
  id := rfl
  method := hm
  route := rfl
  guarded := rfl
  routeParams := rfl
  params := rfl
  expected := rfl
  expectedStatus := rfl
  forbiddenStatus := rfl
  dependencies := rfl
  silent := rfl
  hook := rfl
  flaw := hflaw
  state := rfl

theorem CaseDecl.declares_of_build (d : CaseDecl) (c : Case) (h : d.build = .ok c) : d.Declares c := by
  cases hm : Method.ofName? d.method with
  | none => simp [build, Method.parse, hm, bind, Except.bind] at h
  | some m =>
      rw [d.build_of_method hm, Except.ok.injEq] at h
      by_cases hmissing : (d.outline m).missingRouteParams.isEmpty = true
      · rw [if_pos hmissing] at h
        subst h
        exact d.declares_outline hm (if_pos hmissing).symm
      · rw [if_neg hmissing] at h
        subst h
        exact d.declares_outline hm (if_neg hmissing).symm

/-! ## Lists of declarations -/

namespace Suite

/-- A suite is built into cases exactly if its declarations are, and the cases can be run in that
order. -/
theorem build_eq_ok_iff (suite : Suite) (cases : List Case) :
    suite.build = .ok cases ↔
      List.Forall₂ (fun d c => d.build = .ok c) suite.cases cases ∧ Order.validate cases = .ok () := by
  rw [← mapM_eq_ok_iff]
  unfold build
  cases hbuilt : suite.cases.mapM CaseDecl.build with
  | error e => simp [bind, Except.bind]
  | ok built =>
      simp only [bind, Except.bind, Except.ok.injEq]
      cases hvalid : Order.validate built with
      | error e =>
          constructor
          · intro h; cases h
          · rintro ⟨rfl, h⟩
            rw [hvalid] at h
            cases h
      | ok u =>
          constructor
          · intro h
            cases h
            exact ⟨rfl, hvalid⟩
          · rintro ⟨rfl, -⟩
            rfl

/-- The cases of a suite say what its declarations say, one after the other. -/
theorem declares_of_build (suite : Suite) (cases : List Case) (h : suite.build = .ok cases) :
    List.Forall₂ CaseDecl.Declares suite.cases cases :=
  ((suite.build_eq_ok_iff cases).1 h).1.imp CaseDecl.declares_of_build

/-- They have the identifiers of the declarations, and are as silent as these say. -/
theorem silent_of_build (suite : Suite) (cases : List Case) (h : suite.build = .ok cases) :
    cases.map (fun c => (c.id, c.silent)) = suite.cases.map fun d => (d.id, d.silent) := by
  have hdeclares := suite.declares_of_build cases h
  clear h
  generalize suite.cases = declared at hdeclares
  induction hdeclares with
  | nil => rfl
  | cons hd _ ih => rw [List.map_cons, List.map_cons, ih, hd.id, hd.silent]

/-! ## Checking and setting up -/

/-- Sets a suite up for a run: its variables are set, and then its cases are built. -/
def setUp (suite : Suite) (store : Store) (words : Words) : Except SuiteError (Store × Words × List Case) := do
  let (store, words) ← suite.seed store words
  let cases ← suite.build
  .ok (store, words, cases)

/-- A suite is refused when it is checked for the first fault that keeps it from being set up, whatever
the variables and the random words are. -/
theorem validate_eq_error_iff_setUp (suite : Suite) (store : Store) (words : Words) (e : SuiteError) :
    suite.validate = .error e ↔ suite.setUp store words = .error e := by
  rw [validate_eq_error_iff]
  cases hg : suite.generators with
  | error e' =>
      have hs := (suite.seed_eq_error_iff store words e').2 hg
      simp [setUp, hs, bind, Except.bind]
  | ok generators =>
      have hs := suite.seed_of_generators store words hg
      cases hb : suite.build <;> simp [setUp, hs, hb, bind, Except.bind]

theorem validate_eq_ok_iff_setUp (suite : Suite) (store : Store) (words : Words) :
    suite.validate = .ok () ↔ ∃ left, suite.setUp store words = .ok left := by
  have herror := suite.validate_eq_error_iff_setUp store words
  cases hv : suite.validate with
  | error e =>
      have hset := (herror e).1 hv
      simp [hset]
  | ok u =>
      cases hset : suite.setUp store words with
      | error e =>
          have := (herror e).2 hset
          rw [hv] at this
          cases this
      | ok left => simp

/-- A suite that is set up has the cases that are built from it. -/
theorem build_of_setUp (suite : Suite) (store store' : Store) (words words' : Words) (cases : List Case)
    (h : suite.setUp store words = .ok (store', words', cases)) :
    suite.seed store words = .ok (store', words') ∧ suite.build = .ok cases := by
  unfold setUp at h
  cases hs : suite.seed store words with
  | error e => simp [hs, bind, Except.bind] at h
  | ok left =>
      cases hb : suite.build with
      | error e => simp [hs, hb, bind, Except.bind] at h
      | ok built =>
          simp only [hs, hb, bind, Except.bind, Except.ok.injEq, Prod.mk.injEq] at h
          obtain ⟨rfl, rfl, rfl⟩ := h
          exact ⟨rfl, rfl⟩

end Suite

end Probe
