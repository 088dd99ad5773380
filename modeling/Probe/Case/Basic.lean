import Probe.Case.State
import Probe.Expectation.Fields

/-!
# Cases

A case declares one request and what is expected of the response. It is built by small steps from an
identifier, a method and a route; a route may have placeholders `:name` as segments, which are
filled from the route parameters. Main statement: `missingRouteParams_eq_nil_iff`.
-/

namespace Probe

open Probe.Text

/-- What is done after a case was executed: the values of some variables are shown. -/
structure Hook where
  shown : List String
  deriving DecidableEq, Repr

/-- One request with what is expected of the response, and the state it is in. -/
structure Case where
  id : String
  method : Method
  route : String
  /-- Whether the request carries the `TOKEN` variable as a bearer token. -/
  guarded : Bool
  routeParams : FieldMap
  params : FieldMap
  expected : FieldMap
  expectedStatus : Option Nat
  forbiddenStatus : Option Nat
  dependencies : List String
  silent : Bool
  hook : Option Hook
  /-- Why the definition is flawed, if it is. -/
  flaw : Option String
  state : State

namespace Case

/-- A waiting case without parameters and expectations. -/
def new (id : String) (method : Method) (route : String) : Case :=
  { id, method, route
    guarded := false
    routeParams := .empty
    params := .empty
    expected := .empty
    expectedStatus := none
    forbiddenStatus := none
    dependencies := []
    silent := false
    hook := none
    flaw := none
    state := .waiting }

/-! ## Building -/

/-- Asks for the bearer token. -/
def guard (c : Case) : Case := { c with guarded := true }

/-- Leaves the case out of summaries. -/
def silence (c : Case) : Case := { c with silent := true }

/-- Makes the case depend on another one. -/
def dependsOn (c : Case) (id : String) : Case := { c with dependencies := c.dependencies ++ [id] }

/-- Gives a body field a value. -/
def param (c : Case) (name : String) (e : Expectation) : Case :=
  { c with params := c.params.insert name e }

/-- Gives a placeholder of the route a value. -/
def routeParam (c : Case) (name : String) (e : Expectation) : Case :=
  { c with routeParams := c.routeParams.insert name e }

/-- Expects a field of the response. -/
def expectField (c : Case) (name : String) (e : Expectation) : Case :=
  { c with expected := c.expected.insert name e }

/-- Sets all body fields. -/
def withParams (c : Case) (params : FieldMap) : Case := { c with params }

/-- Sets the values of all placeholders. -/
def withRouteParams (c : Case) (routeParams : FieldMap) : Case := { c with routeParams }

/-- Sets all expected fields. -/
def withExpected (c : Case) (expected : FieldMap) : Case := { c with expected }

/-- Expects a status. -/
def expectStatus (c : Case) (status : Nat) : Case := { c with expectedStatus := some status }

/-- Expects any status but one. -/
def forbidStatus (c : Case) (status : Nat) : Case := { c with forbiddenStatus := some status }

/-- Sets what is done after execution. -/
def onComplete (c : Case) (hook : Hook) : Case := { c with hook := some hook }

/-- Marks the definition as flawed: execution then ends in an error. -/
def flag (c : Case) (reason : String) : Case := { c with flaw := some reason }

/-! ## Reading -/

/-- The status of a case. -/
def status (c : Case) : Status := c.state.status

/-- What is known of a case. -/
def report (c : Case) : Report :=
  { id := c.id
    status := c.state.status
    message := c.state.message
    silent := c.silent
    skippedBy := c.state.skippedBy
    response := c.state.response }

/-- The name of a segment that is a placeholder. -/
def placeholder? : List Char → Option String
  | ':' :: c :: rest => some (String.ofList (c :: rest))
  | _ => none

/-- The segments of the route. -/
def segments (c : Case) : List (List Char) :=
  cut '/' c.route.toList

/-- The placeholders of the route that have no parameter, in order and as often as they occur. -/
def missingRouteParams (c : Case) : List String :=
  (c.segments.filterMap placeholder?).filter fun name => (c.routeParams.get? name).isNone

/-- A segment with its placeholder filled. -/
def fillSegment (c : Case) (store : Store) (segment : List Char) : List Char :=
  match (placeholder? segment).bind c.routeParams.get? with
  | some e => (e.resolve store).toList
  | none => segment

/-- The route with its placeholders filled; none if one has no parameter. -/
def resolveRoute? (c : Case) (store : Store) : Option String :=
  if c.missingRouteParams.isEmpty then
    some (String.ofList (join '/' (c.segments.map (c.fillSegment store))))
  else none

/-- The body: an object of the resolved parameters. -/
def renderBody (c : Case) (store : Store) : String :=
  let members := c.params.entries.map fun (name, e) => (name, Json.Value.string (e.resolve store))
  (Json.Value.object (Json.membersOf members)).compact

/-- The form of a case in logs. -/
def debugText (c : Case) : String :=
  let methodName := match c.method with
    | .get => "Get" | .post => "Post" | .put => "Put" | .delete => "Delete" | .patch => "Patch"
  let statusName := match c.status with
    | .waiting => "Waiting" | .passed => "Passed" | .failed => "Failed" | .error => "Error"
    | .skipped => "Skipped"
  "TestCase \x7b id: " ++ quote c.id ++ ", method: " ++ methodName ++ ", route: " ++ quote c.route ++
    ", protected: " ++ toString c.guarded ++ ", dependencies: [" ++
    String.intercalate ", " (c.dependencies.map quote) ++ "], silent: " ++ toString c.silent ++
    ", status: " ++ statusName ++ ", message: " ++ quote c.state.message ++ ", .. \x7d"

/-- No parameter is missing iff every placeholder has one. -/
theorem missingRouteParams_eq_nil_iff (c : Case) :
    c.missingRouteParams = [] ↔
      ∀ segment ∈ c.segments, ∀ name, placeholder? segment = some name →
        (c.routeParams.get? name).isSome := by
  constructor
  · intro h segment hs name hn
    have hm : name ∈ c.segments.filterMap placeholder? := List.mem_filterMap.2 ⟨segment, hs, hn⟩
    have := List.filter_eq_nil_iff.1 h name hm
    simpa [Option.isNone_iff_eq_none, Option.isSome_iff_ne_none] using this
  · intro h
    refine List.filter_eq_nil_iff.2 fun name hm => ?_
    obtain ⟨segment, hs, hn⟩ := List.mem_filterMap.1 hm
    have := h segment hs name hn
    simpa [Option.isNone_iff_eq_none, Option.isSome_iff_ne_none] using this

end Case

end Probe
