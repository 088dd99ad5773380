import Probe.Decimal.Power
import Probe.Files.Path
import Probe.Text.Blank

/-!
# Configurations

A configuration says which files are suites, where they are looked for, and which server is tested.
Main statements: `searchDir_of_root`, `baseUrl_of_given`.
-/

namespace Probe

open Probe.Text

/-- A configuration. -/
structure Config where
  /-- The pattern of the names of suite files. -/
  pattern : String
  /-- Where suites are looked for, if not where asked to. -/
  root : Option Path
  /-- Whether directories are searched below the first one. -/
  recursive : Bool
  /-- The patterns of the names of directories that are left out. -/
  exclude : List String
  baseUrl : Option String
  host : String
  /-- The variable of the environment that holds the service number. -/
  serviceVariable : String
  timeout : Option Nat
  deriving DecidableEq, Repr

/-- Settings that replace those of a configuration. -/
structure Overrides where
  pattern : Option String
  root : Option Path
  flat : Bool
  deriving DecidableEq, Repr

/-- Why there is no base URL. -/
inductive BaseUrlError where
  | noNumber (name : String)
  | badDigit (name text : String)
  | tooLarge (name text : String)
  deriving DecidableEq, Repr

namespace BaseUrlError

/-- The wording of an error, and of its cause if it has one. -/
def chain : BaseUrlError → List String
  | noNumber name =>
      ["No server port: set the " ++ name ++
        " environment variable (or add it to .env), or pass --base-url"]
  | badDigit name text => [invalid name text, "invalid digit found in string"]
  | tooLarge name text => [invalid name text, "number too large to fit in target type"]
where
  /-- The wording for a text that is no service number. -/
  invalid (name text : String) : String := "Invalid port in " ++ name ++ ": '" ++ text ++ "'"

end BaseUrlError

/-- What is wrong with the text of a service number. -/
inductive NumberFault where
  | digit
  | size
  deriving DecidableEq, Repr

/-- Reads digits of a service number after those that spell `n`; the first fault counts. -/
def serviceDigits (n : Nat) : List Char → Except NumberFault Nat
  | [] => .ok n
  | c :: rest =>
      if '0' ≤ c ∧ c ≤ '9' then
        let m := 10 * n + (c.toNat - 48)
        if m < Decimal.twoTo 16 then serviceDigits m rest else .error .size
      else .error .digit

/-- Reads a service number: 16 bits that tell a server from the others on its host. A plus sign may stand
before the digits, of which there is at least one. -/
def serviceNumber (s : List Char) : Except NumberFault Nat :=
  let digits := match s with
    | '+' :: rest => rest
    | s => s
  if digits.isEmpty then .error .digit else serviceDigits 0 digits

namespace Config

/-- The name of the file that holds the configuration of a directory. -/
def fileName : String := ".apicheck.yaml"

/-- What a configuration file without fields stands for. -/
def blank : Config :=
  { pattern := "*.apicheck.\x7byaml,yml\x7d"
    root := none
    recursive := true
    exclude := []
    baseUrl := none
    host := "localhost"
    serviceVariable := "PORT"
    timeout := none }

/-- The configuration without a configuration file. -/
def standard : Config :=
  { blank with exclude := ["target", "node_modules", ".git"] }

/-- Replaces settings. -/
def override (c : Config) (o : Overrides) : Config :=
  { c with
    pattern := o.pattern.getD c.pattern
    root := o.root <|> c.root
    recursive := c.recursive && !o.flat }

/-- The directory to search: the root of the configuration, from the directory of its file, or from the
directory asked for when there is no file; without a root, the directory asked for. -/
def searchDir (c : Config) (asked : Path) (configDir : Option Path) : Path :=
  match c.root with
  | some root => (configDir.getD asked).join root
  | none => asked

/-- The base URL: the one given, or the one of the configuration, or that of the host with the service
number that the environment holds. -/
def resolveBaseUrl (c : Config) (given : Option String) (environment : String → Option String) :
    Except BaseUrlError String :=
  match given <|> c.baseUrl with
  | some url => .ok (String.ofList (dropTrailing '/' url.toList))
  | none =>
      match environment c.serviceVariable with
      | none => .error (.noNumber c.serviceVariable)
      | some text =>
          let digits := trim text.toList
          if digits.isEmpty then .error (.noNumber c.serviceVariable)
          else
            match serviceNumber digits with
            | .ok n => .ok ("http://" ++ c.host ++ ":" ++ toString n)
            | .error .digit => .error (.badDigit c.serviceVariable text)
            | .error .size => .error (.tooLarge c.serviceVariable text)

/-- The root of a configuration starts at the directory of its file. -/
theorem searchDir_of_root (c : Config) (asked dir root : Path) (h : c.root = some root) :
    c.searchDir asked (some dir) = dir.join root := by
  simp [searchDir, h]

/-- A base URL that is given needs no service number. -/
theorem baseUrl_of_given (c : Config) (url : String) (environment : String → Option String) :
    c.resolveBaseUrl (some url) environment = .ok (String.ofList (dropTrailing '/' url.toList)) := rfl

end Config

end Probe
