import Probe.Files.Tree
import Probe.Text.Alphanumeric
import Probe.Text.Blank

/-!
# Environments

The variables of the environment, to which a file of assignments may add. Values may be quoted, and a
dollar sign puts in the value of another variable. Reading stops at the first line that is ill-formed.
Main statement: `lookup_of_given`.
-/

namespace Probe.Cli

open Probe.Text

/-- The variables given, and those that were added. -/
structure Environment where
  given : String → Option String
  added : List (String × String)

namespace Environment

/-- The value of a variable; the empty name has none. -/
def lookup (e : Environment) (name : String) : Option String :=
  if name = "" then none else e.given name <|> e.added.lookup name

/-- Adds a variable, unless it has a value. -/
def add (e : Environment) (name value : String) : Environment :=
  if (e.lookup name).isSome then e else { e with added := (name, value) :: e.added }

/-- A variable that is given keeps its value. -/
theorem lookup_of_given (e : Environment) (name value : String) (h : e.lookup name = some value)
    (other : String) : e.add name other = e := by
  simp [add, h]

end Environment

/-! ## Lines -/

/-- Where the end of a line stands. -/
inductive Lead where
  | word
  | escape
  | strong
  | strongEscape
  | weak
  | weakEscape
  | space
  | comment
  deriving DecidableEq, Repr

/-- The lead after a character outside of quotes. -/
def Lead.outside (spaced : Bool) (c : Char) : Lead :=
  if c = '\\' then .escape
  else if c = '"' then .weak
  else if c = '\'' then .strong
  else if !spaced && isBlank c && c != '\n' && c != '\r' then .space
  else .word

/-- The lead after a character; a comment goes on to the end of the line. -/
def Lead.next : Lead → Char → Lead
  | .space, c => if c = '#' then .comment else outside true c
  | .word, c => outside false c
  | .escape, _ => .word
  | .weak, c => if c = '\\' then .weakEscape else if c = '"' then .word else .weak
  | .weakEscape, _ => .weak
  | .strong, c => if c = '\\' then .strongEscape else if c = '\'' then .word else .strong
  | .strongEscape, _ => .strong
  | .comment, _ => .comment

/-- The lead at the end of a line, and the number of characters of the line before a comment. -/
def Lead.scan (lead : Lead) (i : Nat) : List Char → Nat × Lead
  | [] => (i, lead)
  | c :: rest =>
      match lead.next c with
      | .comment => (i, .comment)
      | lead => scan lead (i + 1) rest

/-- A line without its end. -/
def dropLineEnd (s : List Char) : List Char :=
  match s.reverse with
  | '\n' :: '\r' :: rest => rest.reverse
  | '\n' :: rest => rest.reverse
  | _ => s

/-- The next assignment of a list of lines, which may take several of them, and the lines after it; none
at the end. An assignment that is not complete at the end is an error: a quote is open, or a blank is the
last character. -/
def nextLine? (before : List Char) (lead : Lead) :
    List (List Char) → Option (Option (List Char) × List (List Char))
  | [] => if lead = .word then none else some (none, [])
  | raw :: rest =>
      let all := before ++ raw
      if (trimStart all).head? == some '#' then some (some [], rest)
      else
        match lead.scan 0 raw with
        | (_, .word) => some (some (dropLineEnd all), rest)
        | (i, .comment) => some (some (before ++ raw.take i), rest)
        | (_, lead) => nextLine? all lead rest

/-- The lines of a text with their ends. -/
def linesOf (text : List Char) : List (List Char) :=
  let parts := cut '\n' text
  parts.dropLast.map (· ++ ['\n']) ++ (parts.getLast?.toList.filter fun s => !s.isEmpty)

/-! ## Values -/

/-- How far a reference to a variable has been read. -/
inductive Reference where
  | none
  | bare
  | braced
  deriving DecidableEq, Repr

/-- What has been read of a value. -/
structure ValueState where
  output : List Char
  strong : Bool
  weak : Bool
  escaped : Bool
  /-- Only a comment may follow. -/
  ended : Bool
  reference : Reference
  name : List Char

/-- The value of a variable, in the environment or else among the assignments before. -/
def substitute (lookup : String → Option String) (earlier : List (String × String)) (name : List Char) :
    List Char :=
  let name := String.ofList name
  ((lookup name <|> earlier.lookup name).getD "").toList

/-- The value at its end; none if a quote or a brace is open. -/
def ValueState.finish? (resolve : List Char → List Char) (v : ValueState) : Option (List Char) :=
  if v.reference = .braced || v.strong || v.weak then none else some (v.output ++ resolve v.name)

/-- Reads a value; none if it is ill-formed. -/
def readValue? (resolve : List Char → List Char) : ValueState → List Char → Option (List Char)
  | v, [] => v.finish? resolve
  | v, c :: rest =>
      let put (c : Char) : ValueState := { v with output := v.output ++ [c] }
      if v.ended then
        if c = ' ' ∨ c = '\t' then readValue? resolve v rest
        else if c = '#' then v.finish? resolve
        else none
      else if v.escaped then
        if c = '\\' ∨ c = '\'' ∨ c = '"' ∨ c = '$' ∨ c = ' ' then
          readValue? resolve { put c with escaped := false } rest
        else if c = 'n' then readValue? resolve { put '\n' with escaped := false } rest
        else none
      else if v.strong then readValue? resolve (if c = '\'' then { v with strong := false } else put c) rest
      else if v.reference ≠ .none then
        if isAlphanumeric c then readValue? resolve { v with name := v.name ++ [c] } rest
        else if v.reference = .bare then
          if c = '\x7b' ∧ v.name.isEmpty then readValue? resolve { v with reference := .braced } rest
          else
            let v := { v with output := v.output ++ resolve v.name, name := [] }
            if c = '$' then readValue? resolve v rest
            else readValue? resolve { v with output := v.output ++ [c], reference := .none } rest
        else if c = '\x7d' then
          readValue? resolve
            { v with output := v.output ++ resolve v.name, name := [], reference := .none } rest
        else readValue? resolve { v with name := v.name ++ [c] } rest
      else if c = '$' then readValue? resolve { v with reference := .bare } rest
      else if v.weak then
        readValue? resolve
          (if c = '"' then { v with weak := false }
            else if c = '\\' then { v with escaped := true } else put c) rest
      else if c = '\'' then readValue? resolve { v with strong := true } rest
      else if c = '"' then readValue? resolve { v with weak := true } rest
      else if c = '\\' then readValue? resolve { v with escaped := true } rest
      else if c = ' ' ∨ c = '\t' then readValue? resolve { v with ended := true } rest
      else readValue? resolve (put c) rest

/-- The name in front of a text, and the rest. -/
def key? (s : List Char) : Option (List Char × List Char) :=
  match s with
  | c :: _ =>
      if c.isAlpha || c == '_' then
        let inKey (c : Char) : Bool := c.isAlphanum || c == '_' || c == '.'
        some (s.takeWhile inKey, s.dropWhile inKey)
      else none
  | [] => none

/-- The text after an equals sign. -/
def afterEquals? : List Char → Option (List Char)
  | '=' :: rest => some rest
  | _ => none

/-- The name of an assignment, which `export` may stand before, and the text of its value. -/
def assignment? (s : List Char) : Option (List Char × List Char) := do
  let (key, rest) ← key? s
  let rest := trimStart rest
  if key == "export".toList && (afterEquals? rest).isNone then
    let (key, rest) ← key? rest
    let value ← afterEquals? (trimStart rest)
    some (key, trimStart value)
  else
    let value ← afterEquals? rest
    some (key, trimStart value)

/-- Reads the assignments of some lines into an environment. -/
def readLines : (fuel : Nat) → Environment → (earlier : List (String × String)) → List (List Char) →
    Environment
  | 0, e, _, _ => e
  | fuel + 1, e, earlier, lines =>
      match nextLine? [] .word lines with
      | none | some (none, _) => e
      | some (some line, lines) =>
          let line := trimStart (trimEnd line)
          if line.isEmpty || line.head? == some '#' then readLines fuel e earlier lines
          else
            match assignment? line with
            | none => e
            | some (key, text) =>
                let key := String.ofList key
                let value :=
                  if text.isEmpty || text.head? == some '#' then some []
                  else
                    readValue? (substitute e.lookup earlier)
                      ⟨[], false, false, false, false, .none, []⟩ text
                match value with
                | none => e
                | some value =>
                    let value := String.ofList value
                    readLines fuel (e.add key value) ((key, value) :: earlier) lines

/-- The text without a byte order mark in front. -/
def dropByteOrderMark : List Char → List Char
  | '\ufeff' :: rest => rest
  | text => text

/-- Reads a file of assignments into an environment. -/
def Environment.read (e : Environment) (text : String) : Environment :=
  let lines := linesOf (dropByteOrderMark text.toList)
  readLines (lines.length + 1) e [] lines

/-- The name of the file of assignments. -/
def environmentFile : String := ".env"

/-- Reads the nearest file of assignments, in the working directory or around it. -/
def Environment.load (e : Environment) (fs : FileSystem) : Environment :=
  let files := (FileSystem.ancestors fs.workingDirectory).filterMap fun names =>
    match fs.root.lookup (names ++ [environmentFile]) with
    | some (.file content) => some content
    | _ => none
  match files.head?.bind Encoded.toString? with
  | some text => e.read text
  | none => e

end Probe.Cli
