import Probe.Http.Transport
import Probe.Http.Url

/-!
# Scripted transports

A script holds a queue of answers for each method and path. A request takes the first answer of its
queue, but the last one stays; without a queue the connection is refused. Every request is recorded.
Main statements: `recorded_send`, `queue_append_of_ne`.
-/

namespace Probe

/-- What a request is answered by: its method and path. -/
abbrev Route := Method × String

/-- The method and path of a request. -/
def Request.routeKey (r : Request) : Route :=
  (r.method, Url.path r.url)

/-- A scripted answer: a response, or the reason of a failure. -/
abbrev Answer := Except String Response

/-- Scripted answers and the requests received so far. -/
structure Script where
  queues : List (Route × List Answer)
  recorded : List Request

namespace Script

/-- No answers and no requests. -/
def empty : Script := ⟨[], []⟩

/-- The queue of a route in a list of queues. -/
def find (key : Route) : List (Route × List Answer) → List Answer
  | [] => []
  | (k, queue) :: rest => if k = key then queue else find key rest

/-- Replaces the queue of a route in a list of queues. -/
def replace (key : Route) (queue : List Answer) :
    List (Route × List Answer) → List (Route × List Answer)
  | [] => [(key, queue)]
  | (k, q) :: rest => if k = key then (key, queue) :: rest else (k, q) :: replace key queue rest

/-- The answers that are left for a route. -/
def queue (s : Script) (key : Route) : List Answer :=
  find key s.queues

/-- Adds an answer at the end of the queue of a route. -/
def append (s : Script) (key : Route) (answer : Answer) : Script :=
  { s with queues := replace key (s.queue key ++ [answer]) s.queues }

/-- Answers by the first entry of a queue, and says what is left of it. -/
def answer (key : Route) : List Answer → Except TransportError Response × List Answer
  | [] =>
      (.error (.request ("connection refused: no response scripted for " ++ key.1.name ++ " " ++ key.2)),
        [])
  | first :: rest =>
      (match first with
        | .ok response => .ok response
        | .error reason => .error (.request reason),
        if rest.isEmpty then [first] else rest)

/-- Records a request and answers it. -/
def send (request : Request) (s : Script) : Except TransportError Response × Script :=
  let key := request.routeKey
  let (result, left) := answer key (s.queue key)
  (result,
    { queues := if left.isEmpty then s.queues else replace key left s.queues
      recorded := s.recorded ++ [request] })

/-- The transport that answers from a script. -/
def transport : Transport Script := ⟨send⟩

theorem find_replace (key other : Route) (q : List Answer) (queues : List (Route × List Answer)) :
    find other (replace key q queues) = if other = key then q else find other queues := by
  induction queues with
  | nil =>
      by_cases h : other = key
      · subst h; simp [replace, find]
      · simp [replace, find, h, Ne.symm h]
  | cons e rest ih =>
      obtain ⟨k, q'⟩ := e
      by_cases hk : k = key
      · subst hk
        by_cases h : other = k
        · subst h; simp [replace, find]
        · simp [replace, find, h, Ne.symm h]
      · by_cases h : other = key
        · subst h; simp [replace, find, hk, ih]
        · simp [replace, find, hk, h, ih]

/-- Scripting an answer for one route leaves the other queues alone. -/
theorem queue_append_of_ne (s : Script) (key other : Route) (a : Answer) (h : other ≠ key) :
    (s.append key a).queue other = s.queue other := by
  simp [queue, append, find_replace, h]

/-- Every request is recorded, failures included. -/
theorem recorded_send (r : Request) (s : Script) :
    (send r s).2.recorded = s.recorded ++ [r] := rfl

end Script

end Probe
