import Probe.Json.Value

/-!
# Reports

What is known of a case: its status, a message, and the response of a failed assertion.
-/

namespace Probe

/-- The status of a case. All but `waiting` are final. -/
inductive Status where
  | waiting
  | passed
  | failed
  | error
  | skipped
  deriving DecidableEq, Repr

namespace Status

/-- The name of a status. -/
def name : Status → String
  | waiting => "WAITING"
  | passed => "PASSED"
  | failed => "FAILED"
  | error => "ERROR"
  | skipped => "SKIPPED"

/-- A status that a case never leaves. -/
def isFinal (s : Status) : Bool :=
  s != waiting

end Status

/-- The body of a response, kept to explain a failed assertion. -/
inductive Dump where
  | json (body : Json.Value)
  | notJson
  deriving Repr

/-- What is known of a case at some point. -/
structure Report where
  id : String
  status : Status
  message : String
  silent : Bool
  skippedBy : Option String
  response : Option Dump
  deriving Repr

end Probe
