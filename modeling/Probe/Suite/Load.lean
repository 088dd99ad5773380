import Probe.Files.Tree
import Probe.Suite.Build
import Probe.Suite.OfYaml

/-!
# Suite files

A suite file is read, declares a suite, and is checked. Each step may fail.
-/

namespace Probe

/-- Why a suite file cannot be run. -/
inductive LoadError where
  | unreadable (path : Path) (e : FileError)
  | illFormed (path : Path) (e : Yaml.ReadError)
  | invalid (path : Path) (e : SuiteError)

namespace LoadError

/-- The wording of an error and of its causes. -/
def chain : LoadError → List String
  | unreadable path e => ["Failed to read suite file: " ++ path.quoted, e.message]
  | illFormed path e =>
      ["Failed to parse suite file: " ++ path.quoted, "Failed to parse YAML", e.message]
  | invalid path e => ["Invalid suite file: " ++ path.quoted, e.message]

/-- The wording of an error and of its causes on one line. -/
def message (e : LoadError) : String :=
  String.intercalate ": " e.chain

end LoadError

/-- The suite of a file. -/
def Suite.load (fs : FileSystem) (path : Path) : Except LoadError Suite :=
  match fs.readText path with
  | .error e => .error (.unreadable path e)
  | .ok text => (Suite.parse text).mapError (.illFormed path)

/-- The number of cases of a suite file that can be run. -/
def Suite.check (fs : FileSystem) (path : Path) : Except LoadError Nat := do
  let suite ← Suite.load fs path
  (suite.validate.mapError (LoadError.invalid path)).map fun _ => suite.cases.length

end Probe
