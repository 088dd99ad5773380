import Probe.Http.Script
import Probe.Proofs.Run.Simulation
import Probe.Proofs.Run.Statuses
import Probe.Run.Summary

/-!
# Parts of a run

A run is its turns, one after the other. The turns of the first part of a list of cases are those of that
part alone, and if the second part depends on nothing in the first, it may as well be run by itself, on
the variables and the transport that the first part leaves. Main statements:

* `followedBy_turnsFrom`: a run is what its turns come to.
* `turnsFrom_append`: the turns of a first part.
* `runCases_append`: a second part that depends on nothing in the first.
* `concatenation_law`: both, with what an onlooker notices.
-/

namespace Probe

namespace Outcome

variable {σ : Type}

/-- Nothing has happened yet. -/
def start (store : Store) (s : σ) : Outcome σ := ⟨[], [], store, s⟩

/-- An outcome, and then others one after the other. -/
def followedBy (o : Outcome σ) (others : List (Outcome σ)) : Outcome σ :=
  others.foldl append o

theorem summary_append (a b : Outcome σ) : (a.append b).summary = a.summary.merge b.summary := by
  simp [summary, Summary.merge, reports_append]

theorem append_assoc (a b c : Outcome σ) : (a.append b).append c = a.append (b.append c) := by
  simp [append, List.append_assoc]

end Outcome

section

variable {σ : Type} (transport : Transport σ) (base : String)

/-- The turns of cases that are run after others with the statuses given. -/
def turnsFrom (statuses : Statuses) : List Case → Store → σ → List (Outcome σ)
  | [], _, _ => []
  | c :: rest, store, s =>
      let first := turn transport base statuses c store s
      first :: turnsFrom (record statuses first.cases) rest first.store first.peer

/-- The turns of a run: what each one comes to, with the variables and the transport as it leaves them. -/
def turnsOf (cases : List Case) (store : Store) (s : σ) : List (Outcome σ) :=
  turnsFrom transport base .empty cases store s

/-! ## The turns of a run -/

/-- A run is what its turns come to, one after the other. -/
theorem followedBy_turnsFrom (statuses : Statuses) (cases : List Case) (o : Outcome σ) :
    o.followedBy (turnsFrom transport base statuses cases o.store o.peer) =
      o.append (runFrom transport base statuses cases o.store o.peer) := by
  induction cases generalizing statuses o with
  | nil => simp [turnsFrom, runFrom, Outcome.followedBy, Outcome.append]
  | cons c rest ih =>
      have hrest := ih (record statuses (turn transport base statuses c o.store o.peer).cases)
        (o.append (turn transport base statuses c o.store o.peer))
      rw [Outcome.append_assoc] at hrest
      exact hrest

theorem followedBy_turnsOf (cases : List Case) (store : Store) (s : σ) :
    (Outcome.start store s).followedBy (turnsOf transport base cases store s) =
      runCases transport base cases store s :=
  followedBy_turnsFrom transport base .empty cases (.start store s)

theorem turnsFrom_append (statuses : Statuses) (a b : List Case) (store : Store) (s : σ) :
    turnsFrom transport base statuses (a ++ b) store s =
      let first := runFrom transport base statuses a store s
      turnsFrom transport base statuses a store s ++
        turnsFrom transport base (record statuses first.cases) b first.store first.peer := by
  induction a generalizing statuses store s with
  | nil => rfl
  | cons c rest ih =>
      simp only [List.cons_append, turnsFrom, runFrom, ih]
      simp [Outcome.append, record_append]

theorem length_turnsFrom (statuses : Statuses) (cases : List Case) (store : Store) (s : σ) :
    (turnsFrom transport base statuses cases store s).length = cases.length := by
  induction cases generalizing statuses store s with
  | nil => rfl
  | cons c rest ih => simp [turnsFrom, ih]

/-- Every turn is that of the case at its position. -/
theorem map_ids_turnsFrom (statuses : Statuses) (cases : List Case) (store : Store) (s : σ) :
    (turnsFrom transport base statuses cases store s).map (fun t => t.cases.map Case.id) =
      cases.map fun c => [c.id] := by
  induction cases generalizing statuses store s with
  | nil => rfl
  | cons c rest ih =>
      obtain ⟨c', hturn, hends, -⟩ := exists_turn transport base statuses c store s
      simp only [turnsFrom, List.map_cons, ih, hturn, hends.id_eq, List.map_nil]

/-- The first turns of a run are those of its first part alone. -/
theorem take_turnsOf (a b : List Case) (store : Store) (s : σ) :
    (turnsOf transport base (a ++ b) store s).take a.length = turnsOf transport base a store s := by
  rw [turnsOf, turnsFrom_append]
  exact List.take_left' (length_turnsFrom transport base .empty a store s)

/-! ## A second part by itself -/

/-- Cases that depend on nothing in a first part are run after it as they are run by themselves, on the
variables and the transport that it leaves. -/
theorem runCases_append (a b : List Case) (store : Store) (s : σ)
    (hb : ∀ c ∈ b, ∀ d ∈ c.dependencies, d ∉ a.map Case.id) :
    runCases transport base (a ++ b) store s =
      let first := runCases transport base a store s
      first.append (runCases transport base b first.store first.peer) := by
  have halike : ∀ c ∈ b, ∀ d ∈ c.dependencies,
      PassAlike (record .empty (runCases transport base a store s).cases) .empty d := by
    intro c hc d hd
    apply PassAlike.of_eq
    apply get?_record_of_notMem
    rw [ids_runCases]
    exact hb c hc d hd
  rw [runCases, runFrom_append]
  exact congrArg (Outcome.append _) (runFrom_congr transport base b _ _ halike)

/-- A run of `a ++ b` is what its turns come to, and its first turns are the turns of `a`: the onlooker
notices the same, the same is sent, and variables and transport are left the same after each. If no case
of `b` depends on one of `a`, all of it is what running `a`, and then `b` on what is left by that, comes
to. The cases may be in any state and the identifiers may occur several times. -/
theorem concatenation_law (a b : List Case) (store : Store) (s : σ) :
    let run := fun cases store s => runCases transport.recording base cases store (s, [])
    let turns := turnsOf transport.recording base (a ++ b) store (s, [])
    let whole := run (a ++ b) store s
    let first := run a store s
    (Outcome.start store (s, [])).followedBy turns = whole ∧
    turns.map (fun t => t.cases.map Case.id) = (a ++ b).map (fun c => [c.id]) ∧
    turns.take a.length = turnsOf transport.recording base a store (s, []) ∧
    (Outcome.start store (s, [])).followedBy (turns.take a.length) = first ∧
    ((∀ c ∈ b, ∀ d ∈ c.dependencies, d ∉ a.map Case.id) →
      let second := run b first.store first.peer.1
      whole.reports = first.reports ++ second.reports ∧ whole.calls = first.calls ++ second.calls ∧
      whole.sent = first.sent ++ second.sent ∧ whole.peer.1 = second.peer.1 ∧
      whole.cases = first.cases ++ second.cases ∧ whole.store = second.store ∧
      whole.summary = first.summary.merge second.summary) := by
  intro run turns whole first
  have htake : turns.take a.length = _ := take_turnsOf transport.recording base a b store (s, [])
  refine ⟨followedBy_turnsOf transport.recording base (a ++ b) store (s, []),
    map_ids_turnsFrom transport.recording base .empty (a ++ b) store (s, []), htake, ?_, ?_⟩
  · rw [htake]
    exact followedBy_turnsOf transport.recording base a store (s, [])
  · intro hb second
    have hwhole : whole = first.append
        (runCases transport.recording base b first.store (first.peer.1, first.peer.2)) :=
      runCases_append transport.recording base a b store (s, []) hb
    -- The second part begins with an empty log when it is run by itself.
    have hlog : runCases transport.recording base b first.store (first.peer.1, first.peer.2) =
        { second with peer := (second.peer.1, first.peer.2 ++ second.peer.2) } :=
      runFrom_log transport base .empty b first.store first.peer.1 first.peer.2
    rw [hlog] at hwhole
    rw [hwhole]
    exact ⟨Outcome.reports_append _ _, Outcome.calls_append _ _, rfl, rfl, rfl, rfl,
      Outcome.summary_append _ _⟩

end

/-- The first part captures the token that the second part sends. In the second part a case is skipped for
a dependency that no case has, and another one has the identifier of a case of the first part. -/
theorem concatenation_law_token :
    let login := (Case.new "login" .post "/login").withExpected ⟨[("token", .parse ">>TOKEN")]⟩
    let me := (Case.new "me" .get "/me").guard.onComplete ⟨["TOKEN"]⟩
    let orphan := (Case.new "orphan" .get "/o").dependsOn "gone"
    let again := Case.new "login" .get "/me"
    let answer (name : String) := Response.ofJson 200 (.object [(name, .string "abc")])
    let peer := (Script.empty.append (.post, "/login") (.ok (answer "token"))).append (.get, "/me")
      (.ok (answer "id"))
    let run := fun cases store s => runCases Script.transport.recording "http://h" cases store (s, [])
    let whole := run ([login] ++ [me, orphan, again]) .empty peer
    let first := run [login] .empty peer
    let second := run [me, orphan, again] first.store first.peer.1
    (∀ c ∈ [me, orphan, again], ∀ d ∈ c.dependencies, d ∉ [login].map Case.id) ∧
      whole.cases.map Case.status = [.passed, .passed, .skipped, .passed] ∧
      whole.reports = first.reports ++ second.reports ∧ whole.calls = first.calls ++ second.calls ∧
      second.calls.length = 1 ∧ whole.sent = first.sent ++ second.sent ∧
      whole.store = second.store ∧ whole.summary = first.summary.merge second.summary := by
  intro login me orphan again answer peer run whole first second
  have hapart : ∀ c ∈ [me, orphan, again], ∀ d ∈ c.dependencies, d ∉ [login].map Case.id := by
    decide +kernel
  obtain ⟨-, -, -, -, hparts⟩ :=
    concatenation_law Script.transport "http://h" [login] [me, orphan, again] .empty peer
  obtain ⟨hreports, hcalls, hsent, -, -, hstore, hsummary⟩ := hparts hapart
  exact ⟨hapart, by decide +kernel, hreports, hcalls, by decide +kernel, hsent, hstore, hsummary⟩

end Probe
