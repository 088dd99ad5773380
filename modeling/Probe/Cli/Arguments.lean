import Probe.Config.Basic

/-!
# Command lines

A command line names a command, and then options and one path in any order. Short options may be
written together, and values may be attached to options. Each option is given once at most. Main
statement: `command_nil`.
-/

namespace Probe.Cli

/-- What an option takes. -/
inductive Operand where
  | nothing
  | text
  /-- A text that is not empty. -/
  | path
  deriving DecidableEq, Repr

/-- An option. -/
structure Opt where
  name : String
  letter : Option Char
  operand : Operand
  deriving DecidableEq, Repr

/-- The options that say which suites a command is about. -/
def selectionOptions : List Opt :=
  [⟨"pattern", some 'p', .text⟩, ⟨"root", some 'r', .path⟩, ⟨"no-recursive", none, .nothing⟩,
    ⟨"config", some 'c', .path⟩]

/-- The options of a run. -/
def runOptions : List Opt :=
  [⟨"verbose", some 'v', .nothing⟩, ⟨"hide-skipped", none, .nothing⟩,
    ⟨"verbose-errors", none, .nothing⟩, ⟨"base-url", some 'b', .text⟩,
    ⟨"list-tests", none, .nothing⟩, ⟨"no-color", none, .nothing⟩] ++ selectionOptions

/-- Why a command line is not carried out. -/
inductive Refusal where
  /-- It is ill-formed. -/
  | usage
  /-- It asks for help. -/
  | help
  deriving DecidableEq, Repr

/-- What a command line gives. -/
structure Given where
  /-- The values of options; options without operands have empty ones. -/
  values : List (String × String)
  path : Option String
  deriving DecidableEq, Repr

namespace Given

/-- Adds the value of an option. -/
def add (g : Given) (o : Opt) (value : String) : Except Refusal Given :=
  if (g.values.lookup o.name).isSome || (o.operand == .path && value == "") then .error .usage
  else .ok { g with values := (o.name, value) :: g.values }

/-- Adds the path. -/
def addPath (g : Given) (text : String) : Except Refusal Given :=
  if g.path.isSome || text == "" then .error .usage else .ok { g with path := some text }

/-- Whether an option is given. -/
def has (g : Given) (name : String) : Bool :=
  (g.values.lookup name).isSome

/-- The value of an option. -/
def value? (g : Given) (name : String) : Option String :=
  g.values.lookup name

end Given

/-- Whether an argument is an option rather than a value. -/
def isOption (argument : String) : Bool :=
  argument.toList.head? == some '-' && argument != "-"

/-- A text without an equals sign in front. -/
def dropEquals : List Char → List Char
  | '=' :: rest => rest
  | s => s

/-- Reads options of one letter that are written together. An option with an operand takes the rest, and
is left over when there is none. -/
def letters (options : List Opt) : List Char → Given → Except Refusal (Given × Option Opt)
  | [], g => .ok (g, none)
  | c :: rest, g =>
      match options.find? fun o => o.letter == some c with
      | none => .error (if c = 'h' then .help else .usage)
      | some o =>
          if o.operand = .nothing then do
            letters options rest (← g.add o "")
          else if rest.isEmpty then .ok (g, some o)
          else do
            .ok (← g.add o (String.ofList (dropEquals rest)), none)

/-- Reads an option of several letters, with or without a value attached. An option that lacks its operand
is left over. -/
def word (options : List Opt) (text : List Char) (g : Given) : Except Refusal (Given × Option Opt) :=
  let (name, attached) : String × Option String :=
    match Text.cutFirst '=' text with
    | some (name, value) => (String.ofList name, some (String.ofList value))
    | none => (String.ofList text, none)
  match options.find? fun o => o.name == name with
  | none => .error (if name = "help" ∧ attached.isNone then .help else .usage)
  | some o =>
      match o.operand, attached with
      | .nothing, none => do .ok (← g.add o "", none)
      | .nothing, some _ => .error .usage
      | _, some value => do .ok (← g.add o value, none)
      | _, none => .ok (g, some o)

/-- Reads the arguments of a command. The flag `plain` says that no more options follow; an option that
is `open` takes the next argument as its operand. -/
def readArguments (options : List Opt) (plain : Bool) (unfilled : Option Opt) :
    List String → Given → Except Refusal Given
  | [], g => if unfilled.isSome then .error .usage else .ok g
  | a :: rest, g =>
      match unfilled with
      | some o =>
          -- An operand may not look like an option.
          if isOption a then .error .usage
          else do readArguments options plain none rest (← g.add o a)
      | none =>
          if plain || !isOption a then do readArguments options plain none rest (← g.addPath a)
          else
            match a.toList with
            | ['-', '-'] => readArguments options true none rest g
            | '-' :: '-' :: text => do
                let (g, o) ← word options text g
                readArguments options plain o rest g
            | text => do
                let (g, o) ← letters options (text.drop 1) g
                readArguments options plain o rest g

/-- Which suites a command is about. -/
structure Selection where
  path : Path
  overrides : Overrides
  /-- The configuration file, if it is not to be searched for. -/
  config : Option Path
  deriving DecidableEq, Repr

/-- How a run is asked for. -/
structure RunRequest where
  selection : Selection
  verbose : Bool
  hideSkipped : Bool
  verboseErrors : Bool
  baseUrl : Option String
  /-- Only list the suite files. -/
  listOnly : Bool
  noColor : Bool
  deriving DecidableEq, Repr

/-- What to do. -/
inductive Command where
  | run (r : RunRequest)
  | check (s : Selection)
  deriving DecidableEq, Repr

/-- The suites that arguments ask for. -/
def Given.selection (g : Given) : Except Refusal Selection :=
  match g.path with
  | none => .error .usage
  | some path =>
      .ok
        { path := ⟨path⟩
          overrides :=
            { pattern := g.value? "pattern"
              root := (g.value? "root").map Path.mk
              flat := g.has "no-recursive" }
          config := (g.value? "config").map Path.mk }

/-- The command that a command line asks for. -/
def command : List String → Except Refusal Command
  | "run" :: arguments => do
      let g ← readArguments runOptions false none arguments ⟨[], none⟩
      let selection ← g.selection
      .ok (.run
        { selection
          verbose := g.has "verbose"
          hideSkipped := g.has "hide-skipped"
          verboseErrors := g.has "verbose-errors"
          baseUrl := g.value? "base-url"
          listOnly := g.has "list-tests"
          noColor := g.has "no-color" })
  | "check" :: arguments => do
      let g ← readArguments selectionOptions false none arguments ⟨[], none⟩
      .ok (.check (← g.selection))
  | ["help"] | ["help", "run"] | ["help", "check"] | ["help", "help"] => .error .help
  | a :: _ => .error (if a = "--help" ∨ a.toList.take 2 = ['-', 'h'] then .help else .usage)
  | [] => .error .usage

/-- A command line has to name a command. -/
theorem command_nil : command [] = .error .usage := rfl

end Probe.Cli
