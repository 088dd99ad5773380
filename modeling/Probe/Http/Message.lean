import Probe.Http.Method
import Probe.Json.Printer
import Probe.Json.Reader
import Probe.Text.Lower
import Probe.Text.Segments

/-!
# Requests and responses

Header names do not distinguish ASCII cases: a request keeps its headers as given and looks them up
regardless of case, a response keeps them under their lower-case names. Main statement:
`header?_withHeader`.
-/

namespace Probe

open Probe.Text

/-- An outgoing request. -/
structure Request where
  method : Method
  url : String
  headers : List (String × String)
  body : Option String
  deriving DecidableEq, Repr

/-- The first header of a name. -/
def Request.header? (r : Request) (name : String) : Option String :=
  (r.headers.find? fun (n, _) => lowerCase n = lowerCase name).map Prod.snd

/-- A response with its body fully read. -/
structure Response where
  status : Nat
  headers : Table String
  body : Encoded
  deriving DecidableEq

namespace Response

/-- A response without headers and body. -/
def ofStatus (status : Nat) : Response := ⟨status, .empty, []⟩

/-- Gives a header a value. -/
def withHeader (r : Response) (name value : String) : Response :=
  { r with headers := r.headers.insert (lowerCase name) value }

/-- Gives a response a body. -/
def withBody (r : Response) (body : Encoded) : Response :=
  { r with body := body }

/-- A response that carries a JSON value and says so. -/
def ofJson (status : Nat) (body : Json.Value) : Response :=
  ((ofStatus status).withHeader "content-type" "application/json; charset=utf-8").withBody
    (Encoded.ofString body.compact)

/-- The value of a header. -/
def header? (r : Response) (name : String) : Option String :=
  r.headers.get? (lowerCase name)

/-- Whether the content type says that the body is JSON. -/
def isJson (r : Response) : Bool :=
  match r.header? "content-type" with
  | some type => contains "application/json".toList type.toList
  | none => false

/-- Reads the body as JSON. -/
def json (r : Response) : Except Json.ReadError Json.Value :=
  Json.Value.read r.body

/-- A header is found under its name in any case, and the others are left alone. -/
theorem header?_withHeader (r : Response) (name other value : String) :
    (r.withHeader name value).header? other =
      if lowerCase other = lowerCase name then some value else r.header? other :=
  Table.get?_insert r.headers (lowerCase name) (lowerCase other) value

end Response

end Probe
