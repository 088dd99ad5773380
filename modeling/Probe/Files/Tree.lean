import Probe.Files.Path
import Probe.Table
import Probe.Text.Encoded

/-!
# Trees of files

A directory holds files and directories under names. A file system is a tree with a place in it, from
where paths that are not absolute start. Main statement: `lookup_append`.
-/

namespace Probe

open Probe.Text

/-- A file or a directory. -/
inductive FileTree where
  | file (content : Encoded)
  | directory (entries : List (String × FileTree))

instance : Inhabited FileTree := ⟨.directory []⟩

namespace FileTree

/-- Whether a tree is a directory. -/
def isDirectory : FileTree → Bool
  | file _ => false
  | directory _ => true

/-- The entry of a name. -/
def entry? (name : String) : FileTree → Option FileTree
  | file _ => none
  | directory entries => Entries.get? name entries

/-- The tree below some names. -/
def lookup : List String → FileTree → Option FileTree
  | [], t => some t
  | name :: rest, t => (t.entry? name).bind (lookup rest)

/-- Puts a leaf below some names of a tree; directories on the way are made, and an empty directory
leaves a directory as it is. -/
def put : List String → (tree leaf : FileTree) → FileTree
  | [], directory entries, directory [] => directory entries
  | [], _, leaf => leaf
  | name :: rest, directory entries, leaf =>
      let below := (Entries.get? name entries).getD (directory [])
      directory (Entries.insert name (put rest below leaf) entries)
  | name :: rest, file _, leaf => directory [(name, put rest (directory []) leaf)]

/-- A tree below names is found step by step. -/
theorem lookup_append (a b : List String) (t : FileTree) :
    lookup (a ++ b) t = (lookup a t).bind (lookup b) := by
  induction a generalizing t with
  | nil => rfl
  | cons name a ih =>
      simp only [List.cons_append, lookup]
      cases t.entry? name with
      | none => rfl
      | some u => simp [ih]

end FileTree

/-- Why a path leads nowhere or cannot be read. -/
inductive FileError where
  | missing
  | notDirectory
  | isDirectory
  | notText
  deriving DecidableEq, Repr

/-- The wording of an error. -/
def FileError.message : FileError → String
  | .missing => "No such file or directory (os error 2)"
  | .notDirectory => "Not a directory (os error 20)"
  | .isDirectory => "Is a directory (os error 21)"
  | .notText => "stream did not contain valid UTF-8"

/-- A tree of files and the names that lead to the working directory. -/
structure FileSystem where
  root : FileTree
  workingDirectory : List String

namespace FileSystem

/-- The names that lead to where the segments of a path lead from a place. Every place on the way has to
be a directory. -/
def walk (fs : FileSystem) : (place : List String) → List String → Except FileError (List String)
  | place, [] => .ok place
  | place, s :: rest =>
      match fs.root.lookup place with
      | none => .error .missing
      | some t =>
          -- Even a dot leads nowhere from a file.
          if !t.isDirectory then .error .notDirectory
          else if Path.isIdle s then walk fs place rest
          else if s = ".." then walk fs place.dropLast rest
          else if (t.entry? s).isSome then walk fs (place ++ [s]) rest
          else .error .missing

/-- The names that a path stands for. -/
def resolve (fs : FileSystem) (p : Path) : Except FileError (List String) :=
  if p.text = "" then .error .missing
  else if p.isAbsolute then walk fs [] (p.segments.drop 1)
  else walk fs fs.workingDirectory p.segments

/-- What a path leads to. -/
def find (fs : FileSystem) (p : Path) : Except FileError FileTree := do
  let names ← fs.resolve p
  match fs.root.lookup names with
  | some t => .ok t
  | none => .error .missing

/-- Whether a path leads to a file. -/
def isFile (fs : FileSystem) (p : Path) : Bool :=
  match fs.find p with
  | .ok (.file _) => true
  | _ => false

/-- Whether a path leads anywhere. -/
def hasPath (fs : FileSystem) (p : Path) : Bool :=
  match fs.find p with
  | .ok _ => true
  | .error _ => false

/-- The text of the file that a path leads to. -/
def readText (fs : FileSystem) (p : Path) : Except FileError String := do
  match ← fs.find p with
  | .file content =>
      match content.toString? with
      | some s => .ok s
      | none => .error .notText
  | .directory _ => .error .isDirectory

/-- The absolute path of some names. -/
def absolute (names : List String) : Path :=
  ⟨"/" ++ String.intercalate "/" names⟩

/-- A directory and the directories around it, from the inside to the outside. -/
def ancestors (names : List String) : List (List String) :=
  (List.range (names.length + 1)).reverse.map names.take

end FileSystem

end Probe
