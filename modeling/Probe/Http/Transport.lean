import Probe.Http.Message

/-!
# Transports

A transport answers one request at a time, with a response or a failure, and may change its own state
by it. There are no retries.
-/

namespace Probe

/-- Why an exchange failed. -/
inductive TransportError where
  /-- The request could not be sent, or no response arrived. -/
  | request (reason : String)
  /-- The body of the response could not be read. -/
  | body (reason : String)
  /-- The client could not be set up. -/
  | client (reason : String)
  deriving DecidableEq, Repr

/-- The wording of a failure. -/
def TransportError.message : TransportError → String
  | request reason => reason
  | body reason => "Failed to read response body: " ++ reason
  | client reason => "Failed to build HTTP client: " ++ reason

/-- What answers requests, with a state of type `σ`. -/
structure Transport (σ : Type) where
  send : Request → σ → Except TransportError Response × σ

end Probe
