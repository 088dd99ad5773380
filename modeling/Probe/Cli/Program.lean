import Probe.Cli.Arguments
import Probe.Cli.Environment
import Probe.Cli.Failure
import Probe.Run.Session

/-!
# Commands

Running and checking suites, as functions of the files, the environment and a transport. Both commands
select suite files first: the file asked for, or those that are found in the directory asked for. Main
statements: `select_of_isFile`, `carryOut_usage`.
-/

namespace Probe.Cli

/-- What a command has to do with. -/
structure World (σ : Type) where
  files : FileSystem
  environment : Environment
  /-- The source of generated values. -/
  words : Words
  transport : Transport σ
  /-- The state of the transport. -/
  peer : σ
  /-- Whether results are printed on a terminal. -/
  terminal : Bool

/-- What a command leaves: its code, which is zero for success, and what it prints. -/
structure Exit where
  code : Nat
  output : String
  errors : String
  deriving DecidableEq, Repr

namespace Exit

/-- Printed lines, for a success or not. -/
def ofLines (success : Bool) (lines : List String) : Exit :=
  ⟨if success then 0 else 1, String.join (lines.map (· ++ "\n")), ""⟩

/-- The end of a command that fails. -/
def ofFailure (e : Failure) : Exit :=
  ⟨1, "", Failure.text e.chain⟩

end Exit

/-- How the program is used. -/
def usage : String :=
  String.join (List.map (· ++ "\n")
    ["Sequential integration tests for HTTP APIs",
     "",
     "Usage: apicheck run <PATH> [OPTIONS]",
     "       apicheck check <PATH> [OPTIONS]",
     "",
     "Options of both commands:",
     "  -p, --pattern <PATTERN>    Suite file pattern",
     "  -r, --root <ROOT>          Root directory for suite discovery",
     "      --no-recursive         Disable recursive directory scanning",
     "  -c, --config <CONFIG>      Path to config file",
     "",
     "Options of run:",
     "  -v, --verbose              Print the response of tests that failed an assertion",
     "      --hide-skipped         Do not print skipped tests",
     "      --verbose-errors       List errored test ids after the summary",
     "  -b, --base-url <BASE_URL>  Base URL of the server under test",
     "      --list-tests           List matched suite files without running them",
     "      --no-color             Disable colored output"])

/-! ## Selecting suites -/

/-- Where a configuration is searched for: the directory asked for, or that of the file asked for. -/
def startDir (fs : FileSystem) (path : Path) : Path :=
  if fs.isFile path then path.parent?.getD ⟨"."⟩ else path

/-- The configuration of a selection and the directory of its file, if it has one. -/
def configOf (fs : FileSystem) (s : Selection) : Except Failure (Config × Option Path) :=
  match s.config with
  | some file => do
      let (c, dir) ← (Config.load fs file).mapError .config
      .ok (c.override s.overrides, some dir)
  | none =>
      match Config.discover fs (startDir fs s.path) with
      | some (c, dir) => .ok (c.override s.overrides, some dir)
      | none => .ok (Config.standard.override s.overrides, none)

/-- The configuration and the suite files of a selection. -/
def select (fs : FileSystem) (s : Selection) : Except Failure (Config × List Path) := do
  let (c, dir) ← configOf fs s
  -- A file that is asked for need not match the pattern.
  if fs.isFile s.path then .ok (c, [s.path])
  else if fs.hasPath s.path then
    let files ← (discoverSuites fs (c.searchDir s.path dir) c).mapError .discovery
    .ok (c, files)
  else .error (.noSuchPath s.path)

/-! ## Commands -/

/-- The lines that list suite files. -/
def listing (c : Config) (files : List Path) : List String :=
  ["", "Discovered " ++ toString files.length ++ " suite file(s) matching '" ++ c.pattern ++ "':", ""] ++
    files.map (fun path => "  " ++ path.text) ++ [""]

/-- The line for a checked file. -/
def checkLine (style : Style) (path : Path) : Except LoadError Nat → String
  | .ok count => style.paint ["32"] ("✓ " ++ path.text ++ " (" ++ toString count ++ " tests)")
  | .error e => style.paint ["31"] ("✗ " ++ path.text ++ ": " ++ e.message)

/-- Checks suite files; all of them have to pass. -/
def checkFiles (fs : FileSystem) (style : Style) (files : List Path) : Exit :=
  if files.isEmpty then .ofLines true [Style.noTestsNotice]
  else
    let checked := files.map fun path => (path, Suite.check fs path)
    .ofLines (checked.all fun (_, result) => result.isOk)
      (checked.map fun (path, result) => checkLine style path result)

/-- Runs suite files, once the base URL is known. -/
def runFiles {σ : Type} (w : World σ) (r : RunRequest) (c : Config) (files : List Path) : Exit :=
  match c.resolveBaseUrl r.baseUrl (w.environment.load w.files).lookup with
  | .error e => .ofFailure (.baseUrl e)
  | .ok baseUrl =>
      let style : Style :=
        { verbose := r.verbose
          hideSkipped := r.hideSkipped
          verboseErrors := r.verboseErrors
          colors := w.terminal && !r.noColor }
      let setting : Setting σ :=
        { transport := w.transport
          baseUrl
          style
          titled := decide (1 < files.length) }
      let loaded := files.map fun path => (path, Suite.load w.files path)
      let (s, lines) := (Session.start w.words w.peer).runFiles setting loaded
      .ofLines s.succeeded (lines ++ s.closing style)

/-- Carries out a command. -/
def Command.carryOut {σ : Type} (w : World σ) : Command → Exit
  | .run r =>
      match select w.files r.selection with
      | .error e => .ofFailure e
      | .ok (c, files) =>
          if r.listOnly then .ofLines true (listing c files) else runFiles w r c files
  | .check s =>
      match select w.files s with
      | .error e => .ofFailure e
      | .ok (_, files) => checkFiles w.files { Style.plain with colors := w.terminal } files

/-- Carries out the command that a command line asks for. -/
def carryOut {σ : Type} (w : World σ) (arguments : List String) : Exit :=
  match command arguments with
  | .ok c => c.carryOut w
  | .error .help => ⟨0, usage, ""⟩
  | .error .usage => ⟨2, "", usage⟩

/-- A file that is asked for is the only one, whatever the pattern is. -/
theorem select_of_isFile (fs : FileSystem) (s : Selection) (c : Config) (dir : Option Path)
    (hfile : fs.isFile s.path = true) (hconfig : configOf fs s = .ok (c, dir)) :
    select fs s = .ok (c, [s.path]) := by
  simp [select, hconfig, hfile, bind, Except.bind]

/-- An ill-formed command line does nothing. -/
theorem carryOut_usage {σ : Type} (w : World σ) (arguments : List String)
    (h : command arguments = .error .usage) : carryOut w arguments = ⟨2, "", usage⟩ := by
  simp [carryOut, h]

end Probe.Cli
