import Probe.Config.Basic
import Probe.Files.Tree
import Probe.Yaml.Decode

/-!
# Configuration files

A configuration file is a YAML record, of which unknown fields are ignored. It is loaded from a path, or
found in a directory or the nearest one around it. Main statement: `discover_of_unresolved`.
-/

namespace Probe

open Probe.Yaml

namespace Config

/-- The fields of a configuration file. -/
def fields : List String :=
  ["test_pattern", "root", "recursive", "exclude", "base_url", "host", "port_env", "timeout_secs"]

/-- Reads a field into a configuration. -/
def assign (record : Place) (name : String) (p : Place) (c : Config) : Decode Config := do
  let text (p : Place) : Decode String := p.text "a string"
  match name with
  | "test_pattern" => pure { c with pattern := ← text p }
  | "root" => pure { c with root := (← p.optional record (·.text "path string")).map Path.mk }
  | "recursive" => pure { c with recursive := ← p.flag }
  | "exclude" => pure { c with exclude := ← (← p.items "a sequence").mapM text }
  | "base_url" => pure { c with baseUrl := ← p.optional record text }
  | "host" => pure { c with host := ← text p }
  | "port_env" => pure { c with serviceVariable := ← text p }
  | "timeout_secs" => pure { c with timeout := ← p.optional record (·.natural 64) }
  | _ => pure c

/-- Reads a configuration. -/
def readPlace (p : Place) : Decode Config :=
  p.record "Config" fields [] false (assign p) blank

/-- The configuration that a YAML text holds. -/
def parse (text : String) : Except ReadError Config :=
  Yaml.read readPlace text

end Config

/-- Why a configuration cannot be loaded. -/
inductive ConfigError where
  | unreadable (path : Path) (e : FileError)
  | illFormed (path : Path) (e : ReadError)

/-- The wording of an error and of its cause. -/
def ConfigError.chain : ConfigError → List String
  | .unreadable path e => ["Failed to read config file: " ++ path.quoted, e.message]
  | .illFormed path e => ["Failed to parse config file: " ++ path.quoted, e.message]

namespace Config

/-- Loads a configuration from a file. -/
def readFile (fs : FileSystem) (path : Path) : Except ConfigError Config :=
  match fs.readText path with
  | .error e => .error (.unreadable path e)
  | .ok text =>
      match parse text with
      | .ok c => .ok c
      | .error e => .error (.illFormed path e)

/-- Loads a configuration and gives the directory of its file. -/
def load (fs : FileSystem) (path : Path) : Except ConfigError (Config × Path) := do
  let c ← readFile fs path
  .ok (c, path.parent?.getD ⟨"."⟩)

/-- The nearest directory with a configuration file, from a directory on to the root. -/
def nearestDir? (fs : FileSystem) (names : List String) : Option (List String) :=
  (FileSystem.ancestors names).find? fun names =>
    (fs.root.lookup (names ++ [fileName])).isSome

/-- The configuration of the nearest file, unless it cannot be loaded, and its directory. -/
def discover (fs : FileSystem) (start : Path) : Option (Config × Path) :=
  match fs.resolve start with
  | .error _ => none
  | .ok names => do
      let dir ← nearestDir? fs names
      -- A nearest file that cannot be loaded is not passed over for one further out.
      match readFile fs (FileSystem.absolute (dir ++ [fileName])) with
      | .ok c => some (c, FileSystem.absolute dir)
      | .error _ => none

/-- A start that leads nowhere has no configuration. -/
theorem discover_of_unresolved (fs : FileSystem) (start : Path) (e : FileError)
    (h : fs.resolve start = .error e) : discover fs start = none := by
  simp [discover, h]

end Config

end Probe
