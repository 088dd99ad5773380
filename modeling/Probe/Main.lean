import Probe.Cli.Program
import Probe.Http.Offline

/-!
# The program

Reads the files that a command line is about, carries the command out, and prints. A file that is asked
for is read from its path; when a directory is asked for, the names of the files below it are read from
the standard input, one on each line. Requests are refused, as there is no network.
-/

namespace Probe.Cli

open Probe.Text

/-- What is at a path. -/
inductive Found where
  | nothing
  | content (bytes : List UInt8)
  | directory

/-- Looks at a path. -/
def look (path : String) : IO Found := do
  try
    let bytes ← IO.FS.readBinFile path
    return .content bytes.toList
  catch e =>
    match e with
    | .noFileOrDirectory .. => return .nothing
    | _ => return .directory

/-- The variables of an environment, each of which ends with a zero byte. -/
def variablesOf (bytes : List UInt8) : Table String :=
  let texts := cut '\x00' ((Encoded.ofBytes bytes).filterMap Piece.char?)
  .ofList ((texts.filterMap (cutFirst '=')).map fun (name, value) =>
    (String.ofList name, String.ofList value))

/-- The names that a path stands for, from a directory. -/
def namesOf (here : List String) (p : Path) : List String :=
  ((if p.isAbsolute then [] else here) ++ p.segments).foldl (fun names s =>
    if Path.isIdle s then names else if s = ".." then names.dropLast else names ++ [s]) []

/-- The lines of the standard input, at most `n` of them. -/
def inputLines (input : IO.FS.Stream) : (n : Nat) → IO (List String)
  | 0 => return []
  | n + 1 => do
      let line ← input.getLine
      if line.isEmpty then return []
      let rest ← inputLines input n
      return String.ofList (dropLineEnd line.toList) :: rest

/-- Adds what is at a path to a tree; the files below a directory are those that are named. -/
def addPath (here : List String) (listed : IO (List String)) (t : FileTree) (p : Path) : IO FileTree := do
  let add (t : FileTree) (p : Path) : IO FileTree := do
    match ← look p.text with
    | .content bytes => return t.put (namesOf here p) (.file (.ofBytes bytes))
    | .directory => return t.put (namesOf here p) (.directory [])
    | .nothing => return t
  match ← look p.text with
  | .directory =>
      (← listed).foldlM (fun t name => add t ⟨name⟩) (t.put (namesOf here p) (.directory []))
  | _ => add t p

/-- The paths that a command is about: those that are asked for, and files that are searched for. -/
def pathsOf (here : List String) (c : Command) : List Path :=
  let s := match c with
    | .run r => r.selection
    | .check s => s
  let inward := FileSystem.ancestors here ++ FileSystem.ancestors (namesOf here s.path)
  s.config.toList ++
    (inward.flatMap fun dir =>
      [environmentFile, Config.fileName].map fun name => FileSystem.absolute (dir ++ [name])) ++
    [s.path]

/-- Random words. -/
def randomWords : (n : Nat) → IO (List UInt32)
  | 0 => return []
  | n + 1 => do
      let w ← IO.rand 0 (Decimal.twoTo 32 - 1)
      return UInt32.ofNat w :: (← randomWords n)

/-- The files that a command is about. -/
def filesOf (here : List String) (input : IO.FS.Stream) : Except Refusal Command → IO FileTree
  | .error _ => return .directory []
  | .ok c =>
      (pathsOf here c).foldlM (addPath here (inputLines input 65536))
        ((FileTree.directory []).put here (.directory []))

end Probe.Cli

open Probe Probe.Cli

/-- Carries out the command of the command line; the result is its code. -/
def main (arguments : List String) : IO UInt32 := do
  let given := match ← look "/proc/self/environ" with
    | .content bytes => variablesOf bytes
    | _ => .empty
  let here := namesOf [] ⟨(given.get? "PWD").getD ""⟩
  let tree ← filesOf here (← IO.getStdin) (command arguments)
  let world : World Unit :=
    { files := ⟨tree, here⟩
      environment := ⟨given.get?, []⟩
      words := ⟨← randomWords 16384, 0⟩
      transport := .offline
      peer := ()
      terminal := false }
  let e := carryOut world arguments
  (← IO.getStdout).putStr e.output
  (← IO.getStderr).putStr e.errors
  return UInt32.ofNat e.code
