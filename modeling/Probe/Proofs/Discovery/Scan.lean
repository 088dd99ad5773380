import Probe.Discovery

/-!
# What a scan finds

A scan comes to the files of a directory and, if it is recursive, to those of the directories in it that
are not excluded. Of these it takes the ones with the name of a suite file. Main statements:

* `accepts_star_iff`: what a star with a text after it matches.
* `mem_suitesOfEntries_iff`: which files a scan of a directory takes.
* `discoverSuites_of_matcher`: what discovery comes to, once the patterns are read.
-/

namespace Probe

namespace Glob

theorem anySuffix_iff (p : List Char → Bool) (s : List Char) :
    anySuffix p s = true ↔ ∃ rest, rest <:+ s ∧ p rest = true := by
  induction s with
  | nil => simp [anySuffix]
  | cons c s ih => simp [anySuffix, ih, List.suffix_cons_iff, or_and_right, exists_or]

/-- Characters match themselves. -/
theorem accepts_chars_iff (text s : List Char) : accepts (text.map .char) s = true ↔ s = text := by
  induction text generalizing s with
  | nil => simp [accepts]
  | cons c text ih =>
      cases s with
      | nil => simp [accepts]
      | cons d s => simp [accepts, ih]

/-- A star with a text after it matches what ends in that text; the star may stand for nothing. -/
theorem accepts_star_iff (text s : List Char) :
    accepts (.anyText :: text.map .char) s = true ↔ text <:+ s := by
  rw [accepts, anySuffix_iff]
  constructor
  · rintro ⟨rest, hrest, haccepts⟩
    rwa [← (accepts_chars_iff text rest).1 haccepts]
  · intro h
    exact ⟨text, h, (accepts_chars_iff text text).2 rfl⟩

end Glob

/-- The scan of a directory comes to a file, whose path and name are given. -/
inductive Matcher.Reaches (m : Matcher) (recursive : Bool) :
    (dir : Path) → List (String × FileTree) → Path → String → Prop where
  | here {dir : Path} {entries : List (String × FileTree)} {name : String} {content : Text.Encoded}
      (hfile : (name, .file content) ∈ entries) :
      Reaches m recursive dir entries (dir.join ⟨name⟩) name
  | deeper {dir p : Path} {entries inner : List (String × FileTree)} {name found : String}
      (hdir : (name, .directory inner) ∈ entries) (hrecursive : recursive = true)
      (hkept : m.excludesDir name = false)
      (hreaches : Reaches m recursive (dir.join ⟨name⟩) inner p found) :
      Reaches m recursive dir entries p found

section

variable (m : Matcher) (recursive : Bool)

/-- A scan of entries takes what it takes of one of them. -/
theorem mem_suitesOfEntries (dir p : Path) (entries : List (String × FileTree)) :
    p ∈ suitesOfEntries m recursive dir entries ↔
      ∃ e ∈ entries, p ∈ suitesOfEntry m recursive (dir.join ⟨e.1⟩) e.1 e.2 := by
  induction entries with
  | nil => simp [suitesOfEntries]
  | cons e entries ih => simp [suitesOfEntries, ih]

-- By recursion on the tree. Entries are dealt with part by part, but a file is reached from all of them.
mutual

theorem exists_reaches_of_mem_entry (tree : FileTree) (dir p : Path) (name : String)
    (entries : List (String × FileTree)) (hentry : (name, tree) ∈ entries)
    (h : p ∈ suitesOfEntry m recursive (dir.join ⟨name⟩) name tree) :
    ∃ found, m.Reaches recursive dir entries p found ∧ m.isSuiteName found = true := by
  cases tree with
  | file content =>
      simp only [suitesOfEntry] at h
      split at h
      · next hname =>
          obtain rfl := List.mem_singleton.1 h
          exact ⟨name, .here hentry, hname⟩
      · cases h
  | directory inner =>
      simp only [suitesOfEntry] at h
      split at h
      · next hopen =>
          obtain ⟨hrecursive, hkept⟩ : recursive = true ∧ m.excludesDir name = false := by
            simpa using hopen
          obtain ⟨found, hreaches, hname⟩ :=
            exists_reaches_of_mem_entries inner (dir.join ⟨name⟩) p inner (List.Subset.refl inner) h
          exact ⟨found, .deeper hentry hrecursive hkept hreaches, hname⟩
      · cases h

theorem exists_reaches_of_mem_entries (part : List (String × FileTree)) (dir p : Path)
    (entries : List (String × FileTree)) (hpart : part ⊆ entries)
    (h : p ∈ suitesOfEntries m recursive dir part) :
    ∃ found, m.Reaches recursive dir entries p found ∧ m.isSuiteName found = true := by
  cases part with
  | nil => simp [suitesOfEntries] at h
  | cons e rest =>
      obtain ⟨name, tree⟩ := e
      obtain ⟨hfirst, hrest⟩ := List.cons_subset.1 hpart
      rw [suitesOfEntries, List.mem_append] at h
      rcases h with h | h
      · exact exists_reaches_of_mem_entry tree dir p name entries hfirst h
      · exact exists_reaches_of_mem_entries rest dir p entries hrest h

end

/-- A scan takes exactly the files that it comes to and that have the name of a suite file. -/
theorem mem_suitesOfEntries_iff (dir p : Path) (entries : List (String × FileTree)) :
    p ∈ suitesOfEntries m recursive dir entries ↔
      ∃ name, m.Reaches recursive dir entries p name ∧ m.isSuiteName name = true := by
  constructor
  · exact exists_reaches_of_mem_entries m recursive entries dir p entries (List.Subset.refl entries)
  · rintro ⟨name, hreaches, hname⟩
    induction hreaches with
    | here hfile =>
        refine (mem_suitesOfEntries m recursive _ _ _).2 ⟨_, hfile, ?_⟩
        simp [suitesOfEntry, hname]
    | deeper hdir hrecursive hkept _ ih =>
        refine (mem_suitesOfEntries m recursive _ _ _).2 ⟨_, hdir, ?_⟩
        simpa [suitesOfEntry, hrecursive, hkept] using ih hname

end

/-- A directory is scanned, and what is found is sorted. -/
theorem discoverSuites_of_matcher (fs : FileSystem) (dir : Path) (entries : List (String × FileTree))
    (c : Config) (m : Matcher) (hm : Matcher.ofConfig c = .ok m)
    (hdir : fs.find dir = .ok (.directory entries)) :
    discoverSuites fs dir c =
      .ok ((suitesOfEntries m c.recursive dir entries).mergeSort Path.le) := by
  have hbelow : suitesBelow m c.recursive dir (.directory entries) =
      suitesOfEntries m c.recursive dir entries := by
    rw [suitesBelow]
  rw [discoverSuites, hm, hdir, ← hbelow]
  rfl

end Probe
