import Probe.Case.Basic

/-!
# Executing cases

Executing a waiting case sends its request and judges the response; a final case is left alone. Main
statements: `execute_of_isFinal`, `skip_of_isFinal`.
-/

namespace Probe

open Probe.Text

/-- The variable that holds the bearer token. -/
def tokenVariable : String := "TOKEN"

/-- A call of a hook: what was known of the case, and the variables at that moment. -/
structure HookCall where
  hook : Hook
  report : Report
  store : Store

/-- The lines that a hook shows: a variable and its value each. -/
def HookCall.lines (call : HookCall) : List String :=
  call.hook.shown.map fun name => name ++ ": " ++ (call.store.get? name).getD "(not set)"

/-- The body of a response as it is kept to explain a failed assertion. -/
def Response.dump (r : Response) : Dump :=
  if r.isJson then
    match r.json with
    | .ok body => .json body
    | .error _ => .notJson
  else .notJson

namespace Case

/-- The request of a case, or why none can be sent. -/
def request (c : Case) (base : String) (store : Store) : Except Obstacle Request :=
  match c.flaw with
  | some reason => .error (.flaw reason)
  | none =>
      -- The token is looked at before the route: it is missed first.
      let contentType := ("Content-Type", "application/json")
      let headers : Option (List (String × String)) :=
        if c.guarded then
          (store.get? tokenVariable).map fun token => [contentType, ("Authorization", "Bearer " ++ token)]
        else some [contentType]
      match headers, c.resolveRoute? store with
      | none, _ => .error .tokenMissing
      | some _, none => .error .parametersMissing
      | some headers, some route =>
          .ok
            { method := c.method
              url := String.ofList (dropTrailing '/' base.toList) ++ route
              headers := headers
              body := if c.method.hasBody then some (c.renderBody store) else none }

/-- Checks expected fields in order against a body, up to the first that is not met. -/
def checkFields (body : Json.Value) : List (String × Expectation) → Store → Option Failure × Store
  | [], store => (none, store)
  | (name, e) :: rest, store =>
      match body.get? name with
      | none => (some (.missingField name), store)
      | some observed =>
          if observed.isFalsy then (some (.missingField name), store)
          else
            let (accepted, store) := e.validate observed store
            -- Captured values stay, even if a later field is not met.
            if accepted then checkFields body rest store
            else (some (.wrongField name (e.resolve store) observed.text), store)

/-- Judges the body of a response. -/
def judgeBody (c : Case) (body : Json.Value) (store : Store) : Ending × Store :=
  if body.isFalsy then
    (if c.expected.isEmpty then .passed else .failed .emptyBody (some (.json body)), store)
  else
    match checkFields body c.expected.entries store with
    | (none, store) => (.passed, store)
    | (some why, store) => (.failed why (some (.json body)), store)

/-- The assertion on its status that a response does not meet. -/
def statusFailure? (c : Case) (r : Response) : Option Failure :=
  match c.expectedStatus, c.forbiddenStatus with
  | some expected, forbidden =>
      if r.status ≠ expected then some (.status expected r.status)
      else if forbidden = some r.status then some (.forbiddenStatus r.status) else none
  | none, forbidden =>
      if forbidden = some r.status then some (.forbiddenStatus r.status) else none

/-- Judges a response: its status, then its kind, then its body. -/
def judge (c : Case) (r : Response) (store : Store) : Ending × Store :=
  match c.statusFailure? r with
  | some why => (.failed why (some r.dump), store)
  | none =>
      if r.isJson then
        match r.json with
        | .ok body => c.judgeBody body store
        | .error e => (.error (.unreadableBody e), store)
      else (.failed .notJson none, store)

/-- Writes an ending into the state of a case. -/
def finish (c : Case) (e : Ending) : Case := { c with state := c.state.finish e }

variable {σ : Type}

/-- Executes a case: the case with its new state, the variables, and the state of the transport. -/
def execute (transport : Transport σ) (base : String) (c : Case) (store : Store) (s : σ) :
    Case × Store × σ :=
  if c.state.isFinal then (c, store, s)
  else
    match c.request base store with
    | .error why => (c.finish (.error why), store, s)
    | .ok request =>
        match transport.send request s with
        | (.error e, s) => (c.finish (.error (.transport e)), store, s)
        | (.ok response, s) =>
            let (ending, store) := c.judge response store
            (c.finish ending, store, s)

/-- Skips a waiting case because of a dependency. -/
def skip (c : Case) (dependency : String) : Case :=
  if c.state.isFinal then c
  else { c with state := { c.state with skippedBy := some dependency } }.finish (.skipped dependency)

/-- The call of the hook of a case, if it has one. -/
def hookCall? (c : Case) (store : Store) : Option HookCall :=
  c.hook.map fun hook => { hook, report := c.report, store }

/-- Executing a final case does nothing. -/
theorem execute_of_isFinal (transport : Transport σ) (base : String) (c : Case) (store : Store) (s : σ)
    (h : c.state.isFinal = true) : execute transport base c store s = (c, store, s) := by
  simp [execute, h]

/-- Skipping a final case does nothing. -/
theorem skip_of_isFinal (c : Case) (dependency : String) (h : c.state.isFinal = true) :
    c.skip dependency = c := by
  simp [skip, h]

end Case

end Probe
