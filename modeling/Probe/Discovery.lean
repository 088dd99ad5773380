import Probe.Config.Load
import Probe.Glob

/-!
# Discovering suites

The files whose names match the pattern of a configuration, below a directory. A pattern may have groups
of alternatives in braces. Directories whose names match a pattern to exclude are left out, except the
first one. Main statement: `alternatives_of_no_group`.
-/

namespace Probe

open Probe.Text

/-- Splits a pattern at its first group: what is before it, its alternatives, and the rest. -/
def firstGroup? (pattern : List Char) : Option (List Char × List (List Char) × List Char) := do
  let (head, tail) ← cutFirst '\x7b' pattern
  let (group, rest) ← cutFirst '\x7d' tail
  some (head, cut ',' group, rest)

/-- The rest after the first group is shorter than the pattern. -/
theorem length_cutFirst (sep : Char) (s a b : List Char) (h : cutFirst sep s = some (a, b)) :
    b.length < s.length := by
  obtain ⟨rfl, -⟩ := cutFirst_eq_some_iff.1 h
  simp only [List.length_append, List.length_cons]
  omega

theorem length_firstGroup? (s head rest : List Char) (group : List (List Char))
    (h : firstGroup? s = some (head, group, rest)) : rest.length < s.length := by
  simp only [firstGroup?, Option.bind_eq_bind, Option.bind_eq_some_iff] at h
  obtain ⟨⟨a, t⟩, h1, ⟨g, r⟩, h2, h3⟩ := h
  simp only [Option.some.injEq, Prod.mk.injEq] at h3
  have h4 := length_cutFirst _ _ _ _ h1
  have h5 := length_cutFirst _ _ _ _ h2
  simp only at h2 h5
  rw [← h3.2.2]
  omega

/-- Every spelling of a pattern after each of some beginnings. -/
def spell (starts : List (List Char)) (pattern : List Char) : List (List Char) :=
  match _h : firstGroup? pattern with
  | some (head, group, rest) =>
      spell (starts.flatMap fun start => group.map fun part => start ++ head ++ part) rest
  | none => starts.map (· ++ pattern)
termination_by pattern.length
decreasing_by exact length_firstGroup? _ _ _ _ (by assumption)

/-- A group is spelled out before the rest of the pattern. -/
theorem spell_of_group {pattern head rest : List Char} {group starts : List (List Char)}
    (h : firstGroup? pattern = some (head, group, rest)) :
    spell starts pattern =
      spell (starts.flatMap fun start => group.map fun part => start ++ head ++ part) rest := by
  rw [spell]
  split
  · next h' =>
      obtain ⟨rfl, rfl, rfl⟩ : _ = head ∧ _ = group ∧ _ = rest := by simpa using h'.symm.trans h
      rfl
  · next h' => simp [h'] at h

theorem spell_of_no_group {pattern : List Char} {starts : List (List Char)}
    (h : firstGroup? pattern = none) : spell starts pattern = starts.map (· ++ pattern) := by
  rw [spell]
  split
  · next h' => simp [h'] at h
  · rfl

/-- Every spelling of a pattern with groups; a brace that is not closed stands for itself. -/
def alternatives (pattern : String) : List String :=
  (spell [[]] pattern.toList).map String.ofList

/-- A pattern without a group has one spelling. -/
theorem alternatives_of_no_group (pattern : String) (h : firstGroup? pattern.toList = none) :
    alternatives pattern = [pattern] := by
  simp [alternatives, spell_of_no_group h]

/-- The patterns of suite files and of directories to leave out. -/
structure Matcher where
  patterns : List Glob
  exclude : List Glob
  deriving DecidableEq, Repr

/-- A pattern of a configuration that cannot be read. -/
inductive MatcherError where
  | pattern (text : String) (e : GlobError)
  | exclude (text : String) (e : GlobError)
  deriving DecidableEq, Repr

/-- The wording of an error and of its cause. -/
def MatcherError.chain : MatcherError → List String
  | .pattern text e => ["Invalid suite pattern: " ++ text, e.message]
  | .exclude text e => ["Invalid exclude pattern: " ++ text, e.message]

namespace Matcher

/-- The matcher of a configuration. -/
def ofConfig (c : Config) : Except MatcherError Matcher := do
  let patterns ← (alternatives c.pattern).mapM fun a => (Glob.compile a).mapError (.pattern c.pattern)
  let exclude ← c.exclude.mapM fun dir => (Glob.compile dir).mapError (.exclude dir)
  .ok ⟨patterns, exclude⟩

/-- Whether a name is that of a suite file. -/
def isSuiteName (m : Matcher) (name : String) : Bool :=
  m.patterns.any fun g => g.matchesText name

/-- Whether the name at the end of a path is that of a suite file. -/
def isSuite (m : Matcher) (p : Path) : Bool :=
  (p.fileName?.map m.isSuiteName).getD false

/-- Whether directories of a name are left out. -/
def excludesDir (m : Matcher) (name : String) : Bool :=
  m.exclude.any fun g => g.matchesText name

end Matcher

mutual

/-- The suite files of an entry, whose path is given, below the first directory. -/
def suitesOfEntry (m : Matcher) (recursive : Bool) (path : Path) (name : String) : FileTree → List Path
  | .file _ => if m.isSuiteName name then [path] else []
  | .directory entries =>
      -- Only directories can be left out, and never the first one.
      if recursive && !m.excludesDir name then suitesOfEntries m recursive path entries else []

/-- The suite files of the entries of a directory, whose path is given. -/
def suitesOfEntries (m : Matcher) (recursive : Bool) (dir : Path) : List (String × FileTree) → List Path
  | [] => []
  | (name, t) :: rest =>
      suitesOfEntry m recursive (dir.join ⟨name⟩) name t ++ suitesOfEntries m recursive dir rest

end

/-- The suite files at and below a path, in no special order. -/
def suitesBelow (m : Matcher) (recursive : Bool) (path : Path) : FileTree → List Path
  | .file _ => if m.isSuite path then [path] else []
  | .directory entries => suitesOfEntries m recursive path entries

/-- Why suites cannot be discovered. -/
inductive DiscoveryError where
  | matcher (e : MatcherError)
  | scan (dir : Path) (e : FileError)

/-- The wording of an error and of its causes. -/
def DiscoveryError.chain : DiscoveryError → List String
  | .matcher e => e.chain
  | .scan dir e =>
      ["Failed to scan " ++ dir.quoted, "IO error for operation on " ++ dir.text ++ ": " ++ e.message,
        e.message]

/-- The suite files below a directory in the order of their paths. -/
def discoverSuites (fs : FileSystem) (dir : Path) (c : Config) : Except DiscoveryError (List Path) := do
  let m ← (Matcher.ofConfig c).mapError .matcher
  match fs.find dir with
  | .error e => .error (.scan dir e)
  | .ok tree => .ok ((suitesBelow m c.recursive dir tree).mergeSort Path.le)

end Probe
