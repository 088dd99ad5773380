import Probe.Proofs.Http.Script
import Probe.Proofs.Run.Reads

/-!
# Exchanging independent neighbours

A turn is affected by an earlier one through three things only: the status recorded of it, the variables
that it captured to, and what it did to the transport. If none of these matters to the other turn, two
neighbours may take their turns in either order, and all later turns are the same. Main statements:

* `second_turn`: a turn after one that leaves its case alone.
* `runFrom_pair`: what two such turns come to.
* `neighbours_commute`: a run with independent neighbours exchanged.
-/

namespace Probe

/-! ## Independence -/

/-- The turn of the first case does not matter to the second one: the second one neither depends on the
first one nor reads what it captures. -/
structure Case.LeavesAlone (x y : Case) : Prop where
  dependency : x.id ∉ y.dependencies
  reference : ∀ name ∈ x.captureTargets, name ∉ y.references

instance (x y : Case) : Decidable (x.LeavesAlone y) :=
  decidable_of_iff (x.id ∉ y.dependencies ∧ ∀ name ∈ x.captureTargets, name ∉ y.references)
    ⟨fun ⟨hdependency, hreference⟩ => ⟨hdependency, hreference⟩, fun h => ⟨h.dependency, h.reference⟩⟩

/-- Neither case matters to the other, and they do not capture to the same variables. -/
structure Case.Independent (x y : Case) : Prop where
  id_ne : x.id ≠ y.id
  capture : ∀ name ∈ x.captureTargets, name ∉ y.captureTargets
  left : x.LeavesAlone y
  right : y.LeavesAlone x

instance (x y : Case) : Decidable (x.Independent y) :=
  decidable_of_iff (x.id ≠ y.id ∧ (∀ name ∈ x.captureTargets, name ∉ y.captureTargets) ∧
      x.LeavesAlone y ∧ y.LeavesAlone x)
    ⟨fun ⟨hid, hcapture, hleft, hright⟩ => ⟨hid, hcapture, hleft, hright⟩,
      fun h => ⟨h.id_ne, h.capture, h.left, h.right⟩⟩

/-! ## A turn after another -/

section

variable {σ : Type} (transport : Transport σ) (base : String)

/-- What the case that comes after the cases `before` sends in its turn. -/
def sentAfter (before : List Case) (c : Case) (store : Store) (s : σ) : List Request :=
  let first := runCases transport base before store s
  turnSends base (record .empty first.cases) c first.store

/-- What a turn captures, it captures to a variable that its case captures to. -/
theorem mem_captureTargets_of_mem_turnCaptures (statuses : Statuses) (c : Case) (store : Store) (s : σ)
    {w : String × String} (h : w ∈ turnCaptures transport base statuses c store s) :
    w.1 ∈ c.captureTargets := by
  unfold turnCaptures at h
  cases hb : c.blocker? statuses with
  | some d => simp [hb] at h
  | none =>
      simp only [hb] at h
      obtain ⟨-, ⟨f, hf, hcapture⟩, -⟩ := Case.of_mem_captures transport base h
      exact List.mem_filterMap.2 ⟨f, hf, hcapture⟩

section

variable {x y : Case} (statuses : Statuses) (store : Store) (s : σ)

/-- A case records no status that matters to a case that it leaves alone, -/
theorem passAlike_record_turn (h : x.LeavesAlone y) :
    ∀ d ∈ y.dependencies,
      PassAlike statuses (record statuses (turn transport base statuses x store s).cases) d := by
  intro d hd
  obtain ⟨x', hturn, hends, -⟩ := exists_turn transport base statuses x store s
  have hne : d ≠ x'.id := by
    rw [hends.id_eq]
    exact fun heq => h.dependency (heq ▸ hd)
  apply PassAlike.of_eq
  rw [hturn]
  exact (get?_record_of_notMem statuses [x'] d (by simpa using hne)).symm

/-- and leaves the variables as they are that such a case reads. -/
theorem agreeOn_turn (h : x.LeavesAlone y) :
    store.AgreeOn y.references (turn transport base statuses x store s).store := by
  rw [store_turn]
  apply Store.agreeOn_insertAll
  intro w hw
  exact h.reference w.1 (mem_captureTargets_of_mem_turnCaptures transport base statuses x store s hw)

/-- What a turn sends after the turn of a case that leaves its case alone. -/
theorem turnSends_second (h : x.LeavesAlone y) :
    let first := turn transport base statuses x store s
    turnSends base (record statuses first.cases) y first.store = turnSends base statuses y store :=
  turnSends_congr base y (passAlike_record_turn transport base statuses store s h)
    (agreeOn_turn transport base statuses store s h)

/-- A turn after that of a case that leaves its case alone comes to the same as without it, if its request
is answered alike. -/
theorem second_turn (h : x.LeavesAlone y)
    (hanswer : ∀ r ∈ turnSends base statuses y store,
      (transport.send r (transport.after (turnSends base statuses x store) s)).1 =
        (transport.send r s).1) :
    let first := turn transport base statuses x store s
    (turn transport base (record statuses first.cases) y first.store first.peer).cases =
        (turn transport base statuses y store s).cases ∧
      turnCaptures transport base (record statuses first.cases) y first.store first.peer =
        turnCaptures transport base statuses y store s := by
  intro first
  rw [← peer_turn transport base statuses x store s] at hanswer
  exact turn_eq_of_alike transport base y (passAlike_record_turn transport base statuses store s h)
    (agreeOn_turn transport base statuses store s h) s first.peer hanswer

/-- Two turns, of which the first one does not matter to the second. -/
theorem runFrom_pair (h : x.LeavesAlone y)
    (hanswer : ∀ r ∈ turnSends base statuses y store,
      (transport.send r (transport.after (turnSends base statuses x store) s)).1 =
        (transport.send r s).1) :
    let o := runFrom transport base statuses [x, y] store s
    o.cases = (turn transport base statuses x store s).cases ++
        (turn transport base statuses y store s).cases ∧
      o.store = (store.insertAll (turnCaptures transport base statuses x store s)).insertAll
        (turnCaptures transport base statuses y store s) ∧
      o.peer = transport.after (turnSends base statuses y store)
        (transport.after (turnSends base statuses x store) s) := by
  intro o
  obtain ⟨hcases, hcaptures⟩ := second_turn transport base statuses store s h hanswer
  have hsends := turnSends_second transport base statuses store s h
  refine ⟨?_, ?_, ?_⟩
  · simp only [o, runFrom, Outcome.append, hcases, List.append_nil]
  · simp only [o, runFrom, Outcome.append]
    rw [store_turn, hcaptures, store_turn]
  · simp only [o, runFrom, Outcome.append]
    rw [peer_turn, hsends, peer_turn]

end

end

/-! ## Exchanging two turns -/

/-- Of two cases with different identifiers, the statuses may be recorded in either order. -/
theorem record_comm (statuses : Statuses) (x y : Case) (h : x.id ≠ y.id) :
    record statuses [y, x] = record statuses [x, y] := by
  apply Table.ext_get?
  intro name
  simp only [record, List.foldl_cons, List.foldl_nil, Table.get?_insert]
  by_cases hx : name = x.id
  · have hy : name ≠ y.id := hx ▸ h
    rw [if_pos hx, if_neg hy, if_pos hx]
  · rw [if_neg hx, if_neg hx]

/-- A run at two neighbouring turns. -/
theorem runCases_pair {σ : Type} (transport : Transport σ) (base : String) (before : List Case)
    (x y : Case) (after : List Case) (store : Store) (s : σ) :
    runCases transport base (before ++ x :: y :: after) store s =
      let first := runCases transport base before store s
      let statuses := record .empty first.cases
      let pair := runFrom transport base statuses [x, y] first.store first.peer
      first.append (pair.append
        (runFrom transport base (record statuses pair.cases) after pair.store pair.peer)) := by
  rw [runCases, runFrom_append]
  exact congrArg (Outcome.append _) (runFrom_append transport base _ [x, y] after _ _)

/-- A case that leaves another one alone does not change what that one sends in the next turn. -/
theorem sentAfter_concat {σ : Type} (transport : Transport σ) (base : String) (before : List Case)
    {x y : Case} (store : Store) (s : σ) (h : x.LeavesAlone y) :
    sentAfter transport base (before ++ [x]) y store s = sentAfter transport base before y store s := by
  simp only [sentAfter, runCases, runFrom_append, runFrom, Outcome.append, List.append_nil, record_append]
  exact turnSends_second transport base _ _ _ h

/-- Two entries with different keys may be exchanged without changing what is found. -/
theorem find?_exchange {α : Type} (p : α → Bool) (before after : List α) {a b : α}
    (h : p a = true → p b = false) :
    (before ++ b :: a :: after).find? p = (before ++ a :: b :: after).find? p := by
  rw [List.find?_append, List.find?_append]
  -- At most one of the two is found.
  cases ha : p a with
  | true => simp [ha, h ha]
  | false => simp [List.find?_cons, ha]

/-- Two scripts with the same answers left, which have recorded the same after `log` and `log'`. -/
structure Script.Alike (log log' : List Request) (s s' : Script) : Prop where
  queue : ∀ key, s'.queue key = s.queue key
  recorded : ∃ later, s.recorded = log ++ later ∧ s'.recorded = log' ++ later

/-- Such scripts answer alike, and record the same. -/
theorem Script.simulation_alike (log log' : List Request) :
    Script.transport.Simulation Script.transport (Script.Alike log log') := by
  rintro request s s' ⟨hqueue, later, hlog, hlog'⟩
  refine ⟨?_, ?_, later ++ [request], ?_, ?_⟩
  · simp only [transport, send]
    rw [hqueue]
  · intro key
    simp only [transport]
    rw [queue_send, queue_send, hqueue]
  · simp only [transport]
    rw [recorded_send, hlog, List.append_assoc]
  · simp only [transport]
    rw [recorded_send, hlog', List.append_assoc]

/-- After two turns in either order, all later turns come to the same: the statuses recorded are the same,
and so are the variables, and the scripts have the same answers left. -/
theorem alike_later (base : String) (statuses : Statuses) (after : List Case) {p p' : Outcome Script}
    {x y : Case} (hid : x.id ≠ y.id) (hcases : p.cases = [x, y]) (hcases' : p'.cases = [y, x])
    (hstore : p'.store = p.store) (hqueue : ∀ key, p'.peer.queue key = p.peer.queue key) :
    (runFrom Script.transport base (record statuses p.cases) after p.store p.peer).Alike
      (Script.Alike p.peer.recorded p'.peer.recorded)
      (runFrom Script.transport base (record statuses p'.cases) after p'.store p'.peer) := by
  have hstart : Script.Alike p.peer.recorded p'.peer.recorded p.peer p'.peer :=
    ⟨hqueue, [], (List.append_nil _).symm, (List.append_nil _).symm⟩
  rw [hcases, hcases', hstore, record_comm statuses x y hid]
  exact runFrom_simulated base (Script.simulation_alike _ _) _ after p.store hstart

section

variable (base : String) {x y : Case} (h : x.Independent y)

include h

/-- Independent neighbours come to the same in either order, except that their requests are recorded in
the order of the turns. -/
theorem pair_exchange (statuses : Statuses) (store : Store) (s : Script)
    (hroutes : ∀ q ∈ turnSends base statuses x store, ∀ r ∈ turnSends base statuses y store,
      q.routeKey ≠ r.routeKey) :
    let p := runFrom Script.transport base statuses [x, y] store s
    let p' := runFrom Script.transport base statuses [y, x] store s
    let sentX := turnSends base statuses x store
    let sentY := turnSends base statuses y store
    ∃ x' y', x.EndsAs x' ∧ y.EndsAs y' ∧ p.cases = [x', y'] ∧ p'.cases = [y', x'] ∧
      p.reports = [x'.report, y'.report] ∧ p'.reports = [y'.report, x'.report] ∧
      p'.store = p.store ∧ p.peer.recorded = s.recorded ++ (sentX ++ sentY) ∧
      p'.peer.recorded = s.recorded ++ (sentY ++ sentX) ∧
      ∀ key, p'.peer.queue key = p.peer.queue key := by
  intro p p' sentX sentY
  have hx : ∀ r ∈ sentX, (Script.transport.send r (Script.transport.after sentY s)).1 =
      (Script.transport.send r s).1 := fun r hr =>
    Script.answer_after_of_ne r sentY s fun q hq => (hroutes r hr q hq).symm
  have hy : ∀ r ∈ sentY, (Script.transport.send r (Script.transport.after sentX s)).1 =
      (Script.transport.send r s).1 := fun r hr =>
    Script.answer_after_of_ne r sentX s fun q hq => hroutes q hq r hr
  obtain ⟨hcases, hstore, hpeer⟩ := runFrom_pair Script.transport base statuses store s h.left hy
  obtain ⟨hcases', hstore', hpeer'⟩ := runFrom_pair Script.transport base statuses store s h.right hx
  obtain ⟨x', hturnx, hendsx, -⟩ := exists_turn Script.transport base statuses x store s
  obtain ⟨y', hturny, hendsy, -⟩ := exists_turn Script.transport base statuses y store s
  rw [hturnx, hturny] at hcases hcases'
  have hreports : p.reports = p.cases.map Case.report :=
    reports_runFrom Script.transport base statuses [x, y] store s
  have hreports' : p'.reports = p'.cases.map Case.report :=
    reports_runFrom Script.transport base statuses [y, x] store s
  rw [hcases] at hreports
  rw [hcases'] at hreports'
  refine ⟨x', y', hendsx, hendsy, hcases, hcases', hreports, hreports', ?_, ?_, ?_, ?_⟩
  · -- The two cases capture to different variables.
    rw [hstore, hstore']
    apply Store.insertAll_comm
    intro w hw v hv heq
    have hwy := mem_captureTargets_of_mem_turnCaptures Script.transport base statuses y store s hw
    have hvx := mem_captureTargets_of_mem_turnCaptures Script.transport base statuses x store s hv
    exact h.capture v.1 hvx (heq ▸ hwy)
  · rw [hpeer, Script.recorded_after, Script.recorded_after, List.append_assoc]
  · rw [hpeer', Script.recorded_after, Script.recorded_after, List.append_assoc]
  · intro key
    rw [hpeer, hpeer']
    exact (Script.queue_after_comm sentX sentY s hroutes key).symm

/-- Two independent neighbours, whose requests go to different routes if both send one, may be exchanged.
Every case comes to the same report and the same variables are left. The reports and the requests are those
of the first run, where those of the two cases change places; the same answers are left in the script. The
other cases may be in any state and have any identifiers and dependencies. -/
theorem neighbours_commute (before after : List Case) (store : Store) (s : Script)
    (hroutes : ∀ q ∈ sentAfter Script.transport base before x store s,
      ∀ r ∈ sentAfter Script.transport base (before ++ [x]) y store s, q.routeKey ≠ r.routeKey) :
    let first := runCases Script.transport base before store s
    let sentX := sentAfter Script.transport base before x store s
    let sentY := sentAfter Script.transport base (before ++ [x]) y store s
    let o := runCases Script.transport base (before ++ x :: y :: after) store s
    let o' := runCases Script.transport base (before ++ y :: x :: after) store s
    (∀ id, o'.reports.find? (fun r => r.id == id) = o.reports.find? (fun r => r.id == id)) ∧
    o'.store = o.store ∧ (∀ key, o'.peer.queue key = o.peer.queue key) ∧
    (∃ x' y' later, x.EndsAs x' ∧ y.EndsAs y' ∧
      o.reports = first.reports ++ x'.report :: y'.report :: later ∧
      o'.reports = first.reports ++ y'.report :: x'.report :: later) ∧
    (∃ later, o.peer.recorded = first.peer.recorded ++ (sentX ++ sentY) ++ later ∧
      o'.peer.recorded = first.peer.recorded ++ (sentY ++ sentX) ++ later) := by
  intro first sentX sentY o o'
  have hsentY : sentY = sentAfter Script.transport base before y store s :=
    sentAfter_concat Script.transport base before store s h.left
  have hroutes' : ∀ q ∈ sentX, ∀ r ∈ sentAfter Script.transport base before y store s,
      q.routeKey ≠ r.routeKey := by
    rw [← hsentY]
    exact hroutes
  -- Both runs are cut into the cases before, the pair and the cases after it.
  let statuses := record .empty first.cases
  let p := runFrom Script.transport base statuses [x, y] first.store first.peer
  let p' := runFrom Script.transport base statuses [y, x] first.store first.peer
  let rest := runFrom Script.transport base (record statuses p.cases) after p.store p.peer
  let rest' := runFrom Script.transport base (record statuses p'.cases) after p'.store p'.peer
  have ho : o = first.append (p.append rest) :=
    runCases_pair Script.transport base before x y after store s
  have ho' : o' = first.append (p'.append rest') :=
    runCases_pair Script.transport base before y x after store s
  obtain ⟨x', y', hendsx, hendsy, hcases, hcases', hreports, hreports', hstore, hrecorded, hrecorded',
      hqueue⟩ :=
    pair_exchange base h statuses first.store first.peer hroutes'
  have hid : x'.id ≠ y'.id := by
    rw [hendsx.id_eq, hendsy.id_eq]
    exact h.id_ne
  -- What the pair leaves is alike in both runs, up to the order of what has been recorded.
  have hrest : rest.Alike (Script.Alike p.peer.recorded p'.peer.recorded) rest' :=
    alike_later base statuses after hid hcases hcases' hstore hqueue
  have hlater : rest'.reports = rest.reports := congrArg (List.filterMap Event.report?) hrest.events
  have hall : o.reports = first.reports ++ x'.report :: y'.report :: rest.reports := by
    rw [ho, Outcome.reports_append, Outcome.reports_append, hreports]
    rfl
  have hall' : o'.reports = first.reports ++ y'.report :: x'.report :: rest.reports := by
    rw [ho', Outcome.reports_append, Outcome.reports_append, hreports', hlater]
    rfl
  obtain ⟨later, hlog, hlog'⟩ := hrest.peer.recorded
  refine ⟨?_, ?_, ?_, ⟨x', y', rest.reports, hendsx, hendsy, hall, hall'⟩, later, ?_, ?_⟩
  · intro id
    rw [hall, hall']
    apply find?_exchange
    intro hx
    have hxid : x'.id = id := by simpa [Case.report] using hx
    simpa [Case.report, ← hxid] using hid.symm
  · rw [ho, ho']
    exact hrest.store
  · rw [ho, ho']
    exact hrest.peer.queue
  · rw [ho, hsentY]
    exact hlog.trans (congrArg (· ++ later) hrecorded)
  · rw [ho', hsentY]
    exact hlog'.trans (congrArg (· ++ later) hrecorded')

end

/-- Of two neighbours one passes and the other one fails after it has captured a variable. A later case
depends on the first, reads what the second captured, and asks the route of the first once more. -/
theorem neighbours_commute_users :
    let login := (Case.new "login" .post "/login").withExpected ⟨[("token", .parse ">>TOKEN")]⟩
    let x := (Case.new "x" .get "/a").guard.withExpected ⟨[("id", .parse ">>A")]⟩
    let y := (Case.new "y" .get "/b").withExpected ⟨[("id", .parse ">>B"), ("role", .parse "{ROLE}")]⟩
    let z := ((Case.new "z" .get "/a").dependsOn "x").withExpected ⟨[("id", .parse "{B}")]⟩
    let body (members : List (String × Json.Value)) := Response.ofJson 200 (.object members)
    let peer := (((Script.empty.append (.post, "/login") (.ok (body [("token", .string "t")]))).append
      (.get, "/a") (.ok (body [("id", .string "1")]))).append
      (.get, "/b") (.ok (body [("id", .string "2"), ("role", .string "user")]))).append
      (.get, "/a") (.ok (body [("id", .string "2")]))
    let sentX := sentAfter Script.transport "http://h" [login] x .empty peer
    let sentY := sentAfter Script.transport "http://h" [login, x] y .empty peer
    let o := runCases Script.transport "http://h" [login, x, y, z] .empty peer
    let o' := runCases Script.transport "http://h" [login, y, x, z] .empty peer
    x.Independent y ∧ (∀ q ∈ sentX, ∀ r ∈ sentY, q.routeKey ≠ r.routeKey) ∧
      sentX.length = 1 ∧ sentY.length = 1 ∧
      o.cases.map Case.status = [.passed, .passed, .failed, .passed] ∧
      o'.store = o.store ∧
      (∀ id, o'.reports.find? (fun r => r.id == id) = o.reports.find? (fun r => r.id == id)) ∧
      ∃ earlier later, o.peer.recorded = earlier ++ (sentX ++ sentY) ++ later ∧
        o'.peer.recorded = earlier ++ (sentY ++ sentX) ++ later := by
  intro login x y z body peer sentX sentY o o'
  have hindependent : x.Independent y := by decide +kernel
  have hroutes : ∀ q ∈ sentX, ∀ r ∈ sentY, q.routeKey ≠ r.routeKey := by decide +kernel
  obtain ⟨hreports, hstore, -, -, later, hsent, hsent'⟩ :=
    neighbours_commute "http://h" hindependent [login] [z] .empty peer hroutes
  exact ⟨hindependent, hroutes, by decide +kernel, by decide +kernel, by decide +kernel, hstore, hreports,
    _, later, hsent, hsent'⟩

end Probe
