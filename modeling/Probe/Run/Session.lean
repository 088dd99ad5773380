import Probe.Output
import Probe.Suite.Load

/-!
# Sessions

A session runs suite files one after the other with the same variables, random words and transport. A
file that cannot be loaded is told and left out. Main statement: `runFile_of_error`.
-/

namespace Probe

/-- What a session has come to after some files. -/
structure Session (σ : Type) where
  store : Store
  words : Words
  peer : σ
  summary : Summary
  /-- The number of cases that have had their turns. -/
  executed : Nat
  /-- Whether a file could not be loaded. -/
  loadFailed : Bool

/-- What stays the same in a session. -/
structure Setting (σ : Type) where
  transport : Transport σ
  baseUrl : String
  style : Style
  /-- Whether the name of each suite is printed. -/
  titled : Bool

namespace Session

variable {σ : Type}

/-- The session before the first file. -/
def start (words : Words) (peer : σ) : Session σ :=
  { store := .empty
    words
    peer
    summary := .empty
    executed := 0
    loadFailed := false }

/-- The line for a file that could not be loaded. -/
def errorLine (style : Style) (path : Path) (e : LoadError) : String :=
  style.paint ["31"] ("Error loading " ++ path.quoted ++ ": " ++ e.message)

/-- The lines before the results of a suite. -/
def title (setting : Setting σ) (path : Path) (suite : Suite) : List String :=
  if setting.titled then ["", suite.name.getD "suite" ++ " (" ++ path.text ++ ")"] else []

/-- Goes on without a file that could not be loaded. -/
def fail (s : Session σ) (setting : Setting σ) (path : Path) (e : LoadError) :
    Session σ × List String :=
  ({ s with loadFailed := true }, [errorLine setting.style path e])

/-- Runs the suite of a file: its variables are set first, and then its cases are built. -/
def runFile (setting : Setting σ) (s : Session σ) (path : Path) :
    Except LoadError Suite → Session σ × List String
  | .error e => s.fail setting path e
  | .ok suite =>
      match suite.seed s.store s.words with
      | .error e => s.fail setting path (.invalid path e)
      | .ok (store, words) =>
          let s := { s with store, words }
          match suite.build with
          | .error e => s.fail setting path (.invalid path e)
          | .ok cases =>
              let o := runCases setting.transport setting.baseUrl cases s.store s.peer
              ({ s with
                  store := o.store
                  peer := o.peer
                  summary := s.summary.merge o.summary
                  executed := s.executed + cases.length },
                title setting path suite ++ o.events.flatMap setting.style.eventLines)

/-- Runs files one after the other. -/
def runFiles (setting : Setting σ) :
    Session σ → List (Path × Except LoadError Suite) → Session σ × List String
  | s, [] => (s, [])
  | s, (path, loaded) :: rest =>
      let (s, first) := s.runFile setting path loaded
      let (s, later) := runFiles setting s rest
      (s, first ++ later)

/-- Whether there was nothing to run. -/
def isIdle (s : Session σ) : Bool :=
  s.executed == 0 && !s.loadFailed

/-- The lines at the end of a session. -/
def closing (style : Style) (s : Session σ) : List String :=
  if s.isIdle then [Style.noTestsNotice] else "" :: style.summaryLines s.summary

/-- Whether a session has succeeded: all files were loaded, and no case failed or met an error. -/
def succeeded (s : Session σ) : Bool :=
  s.isIdle || (s.summary.allPassed && !s.loadFailed)

/-- A file that cannot be read changes nothing but the result of the session. -/
theorem runFile_of_error (setting : Setting σ) (s : Session σ) (path : Path) (e : LoadError) :
    s.runFile setting path (.error e) =
      ({ s with loadFailed := true }, [errorLine setting.style path e]) := rfl

end Session

end Probe
