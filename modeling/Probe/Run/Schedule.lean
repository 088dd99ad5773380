import Probe.Case.Execute

/-!
# Running cases

Cases take their turns in order, one request at a time. A case with a dependency that has not passed
is skipped; any other case is executed, and its hook is called. Variables and transport are
shared. Main statements: `runFrom_append`, `length_runFrom`.
-/

namespace Probe

/-- What an onlooker notices during a run. -/
inductive Event where
  /-- The hook of a case was called. -/
  | completed (call : HookCall)
  /-- A case has had its turn. -/
  | reported (report : Report)

namespace Event

/-- The report of an event that is one. -/
def report? : Event → Option Report
  | reported r => some r
  | completed _ => none

/-- The hook call of an event that is one. -/
def call? : Event → Option HookCall
  | completed call => some call
  | reported _ => none

end Event

/-- A status for each identifier that has been recorded. -/
abbrev Statuses := Table Status

/-- The first dependency of a case that is not recorded as passed. -/
def Case.blocker? (c : Case) (statuses : Statuses) : Option String :=
  c.dependencies.find? fun d => statuses.get? d != some .passed

/-- What a list of cases comes to: the cases in their new states, what was noticed, and the
variables and the transport after it. -/
structure Outcome (σ : Type) where
  cases : List Case
  events : List Event
  store : Store
  peer : σ

namespace Outcome

variable {σ : Type}

/-- The reports in the order of the turns. -/
def reports (o : Outcome σ) : List Report :=
  o.events.filterMap Event.report?

/-- The calls of hooks in order. -/
def calls (o : Outcome σ) : List HookCall :=
  o.events.filterMap Event.call?

/-- One outcome after another. -/
def append (a b : Outcome σ) : Outcome σ :=
  ⟨a.cases ++ b.cases, a.events ++ b.events, b.store, b.peer⟩

end Outcome

section

variable {σ : Type} (transport : Transport σ) (base : String)

/-- The turn of one case. -/
def turn (statuses : Statuses) (c : Case) (store : Store) (s : σ) : Outcome σ :=
  match c.blocker? statuses with
  | some dependency =>
      -- Nothing is sent, and the hook is not called.
      let c := c.skip dependency
      ⟨[c], [.reported c.report], store, s⟩
  | none =>
      let (c, store, s) := c.execute transport base store s
      ⟨[c], ((c.hookCall? store).map Event.completed).toList ++ [.reported c.report], store, s⟩

/-- The statuses after the turns of some cases; of equal identifiers the later one counts. -/
def record (statuses : Statuses) (cases : List Case) : Statuses :=
  cases.foldl (fun t c => t.insert c.id c.status) statuses

/-- Runs cases after others with the statuses given. -/
def runFrom (statuses : Statuses) : List Case → Store → σ → Outcome σ
  | [], store, s => ⟨[], [], store, s⟩
  | c :: rest, store, s =>
      let first := turn transport base statuses c store s
      first.append (runFrom (record statuses first.cases) rest first.store first.peer)

/-- Runs a list of cases. -/
def runCases (cases : List Case) (store : Store) (s : σ) : Outcome σ :=
  runFrom transport base .empty cases store s

/-- A turn is had by one case. -/
theorem cases_turn (statuses : Statuses) (c : Case) (store : Store) (s : σ) :
    ∃ c', (turn transport base statuses c store s).cases = [c'] := by
  unfold turn
  split
  · exact ⟨_, rfl⟩
  · exact ⟨_, rfl⟩

theorem record_append (statuses : Statuses) (a b : List Case) :
    record statuses (a ++ b) = record (record statuses a) b := by
  simp [record, List.foldl_append]

/-- Cases are run one part after the other. -/
theorem runFrom_append (statuses : Statuses) (a b : List Case) (store : Store) (s : σ) :
    runFrom transport base statuses (a ++ b) store s =
      let first := runFrom transport base statuses a store s
      first.append (runFrom transport base (record statuses first.cases) b first.store first.peer) := by
  induction a generalizing statuses store s with
  | nil => simp [runFrom, Outcome.append, record]
  | cons c rest ih =>
      simp only [List.cons_append, runFrom, ih]
      simp [Outcome.append, record_append, List.append_assoc]

/-- Every case has a turn. -/
theorem length_runFrom (statuses : Statuses) (cases : List Case) (store : Store) (s : σ) :
    (runFrom transport base statuses cases store s).cases.length = cases.length := by
  induction cases generalizing statuses store s with
  | nil => rfl
  | cons c rest ih =>
      obtain ⟨c', h⟩ := cases_turn transport base statuses c store s
      simp [runFrom, Outcome.append, ih, h]

end

end Probe
