import Probe.Suite.Basic
import Probe.Suite.Error
import Probe.Suite.Generator

/-!
# Suites as runs

A suite sets its variables and builds its cases. All generators are checked before a variable is set,
and all methods before the order of the cases.
-/

namespace Probe

/-- Builds a case. A route whose placeholders have no parameters makes the case flawed. -/
def CaseDecl.build (d : CaseDecl) : Except SuiteError Case := do
  let method ← Method.parse d.method
  let c : Case :=
    { Case.new d.id method d.route with
      guarded := d.guarded
      routeParams := d.routeParams
      params := d.params
      expected := d.expected
      expectedStatus := d.expectedStatus
      forbiddenStatus := d.forbiddenStatus
      dependencies := d.dependsOn
      silent := d.silent
      hook := if d.shown.isEmpty then none else some ⟨d.shown⟩ }
  .ok (if c.missingRouteParams.isEmpty then c else c.flag Obstacle.parametersMissing.message)

namespace Suite

/-- The generators of the variables with generated values, in the order of the names. -/
def generators (s : Suite) : Except SuiteError (List (String × Generator)) :=
  s.generated.entries.mapM fun (name, kind) =>
    match Generator.ofName? kind with
    | some g => .ok (name, g)
    | none => .error (.unknownGenerator name kind)

/-- Sets variables to generated values. -/
def generateAll : List (String × Generator) → Store → Words → Store × Words
  | [], store, words => (store, words)
  | (name, g) :: rest, store, words =>
      let (value, words) := g.generate words
      generateAll rest (store.set name value) words

/-- Sets the variables of a suite: the literal values and then the generated ones. -/
def seed (s : Suite) (store : Store) (words : Words) : Except SuiteError (Store × Words) := do
  let generators ← s.generators
  let literal := s.assigned.entries.map fun (name, value) => (name, value.toText)
  .ok (generateAll generators (store.insertAll literal) words)

/-- Builds the cases of a suite. -/
def build (s : Suite) : Except SuiteError (List Case) := do
  let cases ← s.cases.mapM CaseDecl.build
  match Order.validate cases with
  | .ok () => .ok cases
  | .error e => .error (.order e)

/-- Checks a suite without running it. -/
def validate (s : Suite) : Except SuiteError Unit := do
  discard s.generators
  discard s.build

end Suite

end Probe
