import Probe.Case.Report
import Probe.Http.Transport

/-!
# States of a case

A case waits until it is executed or skipped; then it has passed, has failed an assertion, has met an
error, or was skipped because of a dependency. Such an ending is written into the state of the case.
Main statement: `skippedBy_finish`.
-/

namespace Probe

/-- An assertion that a response did not meet. -/
inductive Failure where
  | status (expected got : Nat)
  | forbiddenStatus (got : Nat)
  | notJson
  | emptyBody
  | missingField (name : String)
  | wrongField (name expected got : String)

/-- The wording of an assertion that was not met. -/
def Failure.message : Failure → String
  | .status expected got => "Expected status " ++ toString expected ++ ", got " ++ toString got
  | .forbiddenStatus got => "Expected status is not different from " ++ toString got
  | .notJson => "Response is not JSON"
  | .emptyBody => "Response body is empty"
  | .missingField name => "Expected key " ++ name ++ " not found"
  | .wrongField name expected got =>
      "Expected value " ++ expected ++ " for key " ++ name ++ ", got " ++ got

/-- Why a case could not be judged by a response. -/
inductive Obstacle where
  /-- The definition of the case is flawed. -/
  | flaw (reason : String)
  | tokenMissing
  | parametersMissing
  | transport (e : TransportError)
  | unreadableBody (e : Json.ReadError)

/-- The wording of an obstacle. -/
def Obstacle.message : Obstacle → String
  | .flaw reason => reason
  | .tokenMissing => "No token found"
  | .parametersMissing => "Missing parameters"
  | .transport e => e.message
  | .unreadableBody e => e.message

/-- What executing or skipping a case comes to. -/
structure Ending where
  status : Status
  message : String
  /-- The response kept to explain a failed assertion. -/
  response : Option Dump

namespace Ending

def passed : Ending := ⟨.passed, "Test OK", none⟩

def failed (why : Failure) (response : Option Dump) : Ending := ⟨.failed, why.message, response⟩

def error (why : Obstacle) : Ending := ⟨.error, why.message, none⟩

def skipped (dependency : String) : Ending :=
  ⟨.skipped, "Skipping due to dependency " ++ dependency, none⟩

end Ending

/-- What changes of a case while it is run. -/
structure State where
  status : Status
  message : String
  /-- The dependency that the case was skipped for. -/
  skippedBy : Option String
  response : Option Dump

namespace State

/-- The state of a case that has just been made. -/
def waiting : State := ⟨.waiting, "", none, none⟩

/-- A state that a case never leaves. -/
def isFinal (s : State) : Bool :=
  s.status.isFinal

/-- Writes an ending. -/
def finish (s : State) (e : Ending) : State :=
  { s with status := e.status, message := e.message, response := e.response }

/-- An ending does not say which dependency a case was skipped for. -/
@[simp] theorem skippedBy_finish (s : State) (e : Ending) : (s.finish e).skippedBy = s.skippedBy :=
  rfl

end State

end Probe
