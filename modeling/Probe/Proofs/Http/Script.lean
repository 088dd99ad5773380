import Probe.Http.Script
import Probe.Proofs.Case.Execution

/-!
# Requests to a script

A request moves the queue of its own route and no other, so that it does not matter to the answers in which
order requests to different routes arrive. What is left of a queue is what was scripted without as many answers
as were asked for, up to the last one. Main statements:

* `queue_send`: what a request makes of the queues.
* `queue_after`: what requests leave of a queue.
* `answer_after_of_ne`: requests to other routes do not change an answer.
* `queue_after_comm`: requests to different routes in either order.
* `scripting_law`: the answer to each request, in terms of what was scripted.
-/

namespace Probe.Script

/-- A request moves the queue of its route, and leaves all others as they are. -/
theorem queue_send (request : Request) (s : Script) (key : Route) :
    (send request s).2.queue key =
      if key = request.routeKey then (answer key (s.queue key)).2 else s.queue key := by
  have hsend : (send request s).2.queue key =
      find key (if (answer request.routeKey (s.queue request.routeKey)).2.isEmpty then s.queues
        else replace request.routeKey (answer request.routeKey (s.queue request.routeKey)).2 s.queues) :=
    rfl
  rw [hsend]
  cases hq : s.queue request.routeKey with
  | nil =>
      -- Nothing is scripted for the route, and nothing becomes of it.
      by_cases hkey : key = request.routeKey
      · rw [if_pos hkey, hkey, hq]
        exact hq
      · rw [if_neg hkey]
        rfl
  | cons first rest =>
      have hleft : ¬ (answer request.routeKey (first :: rest)).2.isEmpty = true := by
        cases rest <;> simp [answer]
      rw [if_neg hleft, find_replace]
      by_cases hkey : key = request.routeKey
      · rw [if_pos hkey, if_pos hkey, hkey, hq]
      · rw [if_neg hkey, if_neg hkey]
        rfl

theorem recorded_after (requests : List Request) (s : Script) :
    (transport.after requests s).recorded = s.recorded ++ requests := by
  induction requests generalizing s with
  | nil => exact (List.append_nil _).symm
  | cons r rest ih =>
      have hrest := ih (send r s).2
      rw [recorded_send, List.append_assoc] at hrest
      exact hrest

/-- An answer is taken off a queue unless it is the last one. -/
theorem left_answer (key : Route) (queue : List Answer) :
    (answer key queue).2 = queue.drop (min 1 (queue.length - 1)) := by
  match queue with
  | [] => rfl
  | [_] => rfl
  | _ :: _ :: _ => simp [answer]

/-- The number of requests to a route. -/
def requestsTo (key : Route) (requests : List Request) : Nat :=
  requests.countP fun r => r.routeKey = key

/-- Requests take as many answers off the queue of their route as they are, but never the last one. -/
theorem queue_after (requests : List Request) (s : Script) (key : Route) :
    (transport.after requests s).queue key =
      (s.queue key).drop (min (requestsTo key requests) ((s.queue key).length - 1)) := by
  induction requests generalizing s with
  | nil => simp [requestsTo, Transport.after]
  | cons r rest ih =>
      have hrest : (transport.after (r :: rest) s).queue key = _ := ih (send r s).2
      have hsend := queue_send r s key
      by_cases hkey : key = r.routeKey
      · -- One answer is gone, and what is left is as long as the requests that follow see it.
        rw [if_pos hkey, left_answer] at hsend
        have hcount : requestsTo key (r :: rest) = requestsTo key rest + 1 := by
          rw [requestsTo, List.countP_cons_of_pos (by simp [hkey])]
          rfl
        rw [hrest, hsend, hcount, List.drop_drop, List.length_drop]
        congr 1
        omega
      · rw [if_neg hkey] at hsend
        have hcount : requestsTo key (r :: rest) = requestsTo key rest := by
          rw [requestsTo, List.countP_cons_of_neg (by simpa using Ne.symm hkey)]
          rfl
        rw [hrest, hsend, hcount]

/-- Requests to other routes leave a queue as it is. -/
theorem queue_after_of_ne (requests : List Request) (s : Script) (key : Route)
    (h : ∀ r ∈ requests, r.routeKey ≠ key) : (transport.after requests s).queue key = s.queue key := by
  have hnone : requestsTo key requests = 0 := List.countP_eq_zero.2 fun r hr => by simpa using h r hr
  rw [queue_after, hnone, Nat.zero_min, List.drop_zero]

/-- What becomes of a queue depends on nothing but that queue. -/
theorem queue_after_congr (requests : List Request) {s s' : Script} {key : Route}
    (h : s.queue key = s'.queue key) :
    (transport.after requests s).queue key = (transport.after requests s').queue key := by
  rw [queue_after, queue_after, h]

/-- A request is answered as if nothing had been asked of other routes. -/
theorem answer_after_of_ne (request : Request) (requests : List Request) (s : Script)
    (h : ∀ r ∈ requests, r.routeKey ≠ request.routeKey) :
    (transport.send request (transport.after requests s)).1 = (transport.send request s).1 := by
  have hqueue := queue_after_of_ne requests s request.routeKey h
  simp only [transport, send]
  exact congrArg (fun q => (answer request.routeKey q).1) hqueue

/-- Requests to different routes may arrive in either order. -/
theorem queue_after_comm (qs rs : List Request) (s : Script)
    (h : ∀ q ∈ qs, ∀ r ∈ rs, q.routeKey ≠ r.routeKey) (key : Route) :
    (transport.after rs (transport.after qs s)).queue key =
      (transport.after qs (transport.after rs s)).queue key := by
  -- Only one of the two lists can have requests to this route.
  by_cases hkey : ∃ q ∈ qs, q.routeKey = key
  · obtain ⟨q, hq, rfl⟩ := hkey
    have hother : ∀ r ∈ rs, r.routeKey ≠ q.routeKey := fun r hr => (h q hq r hr).symm
    rw [queue_after_of_ne rs _ _ hother]
    exact (queue_after_congr qs (queue_after_of_ne rs s _ hother)).symm
  · have hother : ∀ q ∈ qs, q.routeKey ≠ key := fun q hq heq => hkey ⟨q, hq, heq⟩
    rw [queue_after_of_ne qs _ _ hother]
    exact queue_after_congr rs (queue_after_of_ne qs s _ hother)

/-! ## What was scripted -/

/-- The script that is made by scripting answers for routes, one after the other. -/
def ofEntries (entries : List (Route × Answer)) : Script :=
  entries.foldl (fun s (key, a) => s.append key a) empty

/-- The answers that were scripted for a route, in the order in which they were. -/
def scripted (key : Route) (entries : List (Route × Answer)) : List Answer :=
  (entries.filter fun e => e.1 = key).map Prod.snd

theorem queue_append (s : Script) (key other : Route) (a : Answer) :
    (s.append key a).queue other = s.queue other ++ if key = other then [a] else [] := by
  by_cases hkey : key = other
  · subst hkey
    simp [queue, append, find_replace]
  · rw [queue_append_of_ne s key other a (Ne.symm hkey), if_neg hkey, List.append_nil]

/-- Before any request the queue of a route has what was scripted for it. -/
theorem queue_ofEntries (entries : List (Route × Answer)) (key : Route) :
    (ofEntries entries).queue key = scripted key entries := by
  suffices h : ∀ s : Script, (entries.foldl (fun s (key, a) => s.append key a) s).queue key =
      s.queue key ++ scripted key entries from h empty
  induction entries with
  | nil => exact fun s => (List.append_nil _).symm
  | cons e rest ih =>
      obtain ⟨other, a⟩ := e
      intro s
      rw [List.foldl_cons, ih, queue_append, List.append_assoc]
      by_cases hkey : other = key <;> simp [scripted, hkey]

theorem recorded_ofEntries (entries : List (Route × Answer)) : (ofEntries entries).recorded = [] := by
  suffices h : ∀ s : Script, (entries.foldl (fun s (key, a) => s.append key a) s).recorded = s.recorded from
    h empty
  induction entries with
  | nil => exact fun _ => rfl
  | cons e rest ih => exact fun s => ih (s.append e.1 e.2)

/-- A queue answers by what stands first in it. -/
theorem answer_eq (key : Route) (queue : List Answer) :
    (answer key queue).1 =
      match queue.head? with
      | some a => a.mapError .request
      | none => .error (.request ("connection refused: no response scripted for " ++ key.1.name ++ " " ++ key.2)) := by
  match queue with
  | [] => rfl
  | .ok _ :: _ => rfl
  | .error _ :: _ => rfl

/-- However many requests went before, a request is answered by what was scripted for its method and the path of
its URL: by the answer at the place of the number of those that went the same way, and by the last one when they
were more. Where nothing was scripted the connection is refused. Every request is recorded, in order, whether it
is answered by a response or by a failure. -/
theorem scripting_law (entries : List (Route × Answer)) (before : List Request) (request : Request) :
    let path := Url.path request.url
    let answers := scripted (request.method, path) entries
    let n := (before.filter fun r => r.method = request.method ∧ Url.path r.url = path).length
    let o := transport.send request (transport.after before (ofEntries entries))
    o.1 =
      (match answers[min n (answers.length - 1)]? with
      | some a => a.mapError .request
      | none => .error (.request
          ("connection refused: no response scripted for " ++ request.method.name ++ " " ++ path))) ∧
    o.2.recorded = before ++ [request] := by
  intro path answers n o
  have hcount : requestsTo request.routeKey before = n := by
    rw [requestsTo, List.countP_eq_length_filter]
    simp only [n, path, Request.routeKey, Prod.mk.injEq]
  have hqueue := queue_after before (ofEntries entries) request.routeKey
  rw [queue_ofEntries, hcount] at hqueue
  constructor
  · have hanswer : o.1 = (answer request.routeKey (answers.drop (min n (answers.length - 1)))).1 :=
      congrArg (fun queue => (answer request.routeKey queue).1) hqueue
    rw [hanswer, answer_eq, List.head?_drop]
    rfl
  · have hrecorded := recorded_after before (ofEntries entries)
    rw [recorded_ofEntries, List.nil_append] at hrecorded
    rw [show o.2.recorded = _ from recorded_send _ _, hrecorded]

end Probe.Script
