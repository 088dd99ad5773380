import Probe.Http.Transport
import Probe.Text.Segments

/-!
# Being offline

Without a network no request is answered. The reason depends on the URL: a request can only be built for
an absolute one. Main statement: `offline_refuses`.
-/

namespace Probe

open Probe.Text

/-- A character that a scheme may have after its first one. -/
def Url.inScheme (c : Char) : Bool :=
  c.isAlphanum || c == '+' || c == '-' || c == '.'

/-- The scheme of a URL, unless the URL is relative. -/
def Url.scheme? (url : String) : Option String := do
  let (scheme, _) ← cutFirst ':' url.toList
  let first ← scheme.head?
  if first.isAlpha && scheme.all Url.inScheme then some (String.ofList scheme) else none

/-- Why a request to a URL fails without a network. -/
def Url.refusal (url : String) : String :=
  match Url.scheme? url with
  | none => "builder error"
  | some scheme =>
      if scheme = "http" ∨ scheme = "https" then "error sending request for url (" ++ url ++ ")"
      else "builder error for url (" ++ url ++ ")"

/-- The transport without a network. -/
def Transport.offline : Transport Unit where
  send r _ := (.error (.request (Url.refusal r.url)), ())

/-- No request is answered without a network. -/
theorem offline_refuses (r : Request) : (Transport.offline.send r ()).1.isOk = false := rfl

end Probe
