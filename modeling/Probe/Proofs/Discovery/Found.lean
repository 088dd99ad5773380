import Mathlib.Data.List.Nodup
import Probe.Proofs.Discovery.ConfigFile
import Probe.Proofs.Except
import Probe.Proofs.Files.Trees

/-!
# The suite files of a directory

A file below a directory is a suite file if its name matches a spelling of the pattern and no directory on the way
to it is left out; without recursion it has to be in the directory itself. Discovery finds just these files, each
of them once, in the order of the names on the way. Main statements:

* `mem_suitesOfEntries_iff_wanted`: a scan finds what is wanted.
* `nodup_suitesOfEntries`: a scan finds nothing twice.
* `exists_discovered`: what is found, by the names on the way to it.
* `discovery_law`: the paths that discovery comes to.
-/

namespace Probe

/-- The names that lead from a directory to a file that is taken, with no directory on the way that is left out. -/
structure Wanted (takes leavesOut : String → Prop) (recursive : Bool) (dir : FileTree) (names : List String) :
    Prop where
  isFile : ∃ content, dir.lookup names = some (.file content)
  taken : ∃ name ∈ names.getLast?, takes name
  flat : recursive = false → names.length = 1
  kept : ∀ name ∈ names.dropLast, ¬ leavesOut name

/-! ## What a configuration asks for -/

namespace Config

/-- A file of this name is a suite file: the name matches a spelling of the pattern. -/
def Takes (c : Config) (name : String) : Prop :=
  ∃ spelling ∈ alternatives c.pattern, ∃ g, Glob.compile spelling = .ok g ∧ g.matchesText name = true

/-- A directory of this name is left out. -/
def LeavesOut (c : Config) (name : String) : Prop :=
  ∃ text ∈ c.exclude, ∃ g, Glob.compile text = .ok g ∧ g.matchesText name = true

/-- All patterns of a configuration can be read. -/
structure Readable (c : Config) : Prop where
  pattern : ∀ spelling ∈ alternatives c.pattern, ∃ g, Glob.compile spelling = .ok g
  exclude : ∀ text ∈ c.exclude, ∃ g, Glob.compile text = .ok g

/-- The names that lead from a directory to a suite file. -/
def Wants (c : Config) : FileTree → List String → Prop :=
  Wanted c.Takes c.LeavesOut c.recursive

end Config

/-- The matcher of a configuration takes and leaves out what the configuration does. -/
theorem Matcher.exists_ofConfig {c : Config} (hc : c.Readable) :
    ∃ m, ofConfig c = .ok m ∧ (∀ name, m.isSuiteName name = true ↔ c.Takes name) ∧
      ∀ name, m.excludesDir name = true ↔ c.LeavesOut name := by
  obtain ⟨patterns, hpatterns⟩ : ∃ gs, (alternatives c.pattern).mapM
      (fun a => (Glob.compile a).mapError (MatcherError.pattern c.pattern)) = .ok gs := by
    refine exists_mapM_eq_ok fun spelling hspelling => ?_
    obtain ⟨g, hg⟩ := hc.pattern spelling hspelling
    exact ⟨g, mapError_eq_ok_iff.2 hg⟩
  obtain ⟨exclude, hexclude⟩ : ∃ gs, c.exclude.mapM
      (fun dir => (Glob.compile dir).mapError (MatcherError.exclude dir)) = .ok gs := by
    refine exists_mapM_eq_ok fun text htext => ?_
    obtain ⟨g, hg⟩ := hc.exclude text htext
    exact ⟨g, mapError_eq_ok_iff.2 hg⟩
  refine ⟨⟨patterns, exclude⟩, ?_, ?_, ?_⟩
  · rw [ofConfig, hpatterns]
    simp only [bind, Except.bind]
    rw [hexclude]
  · intro name
    have hfound := exists_mem_of_mapM_iff (fun g => g.matchesText name = true) hpatterns
    simp only [mapError_eq_ok_iff] at hfound
    rw [isSuiteName, List.any_eq_true]
    exact hfound
  · intro name
    have hfound := exists_mem_of_mapM_iff (fun g => g.matchesText name = true) hexclude
    simp only [mapError_eq_ok_iff] at hfound
    rw [excludesDir, List.any_eq_true]
    exact hfound

namespace Config

variable {c : Config}

/-- The standard pattern, and plain names to exclude, can be read. -/
theorem readable_of_plain (hpattern : c.pattern = blank.pattern)
    (hexclude : ∀ text ∈ c.exclude, text.toList.all Glob.isPlain = true) : c.Readable := by
  constructor
  · intro spelling hspelling
    rw [hpattern, alternatives_standard] at hspelling
    obtain ⟨ending, hending, rfl⟩ := List.mem_map.1 hspelling
    have hplain : ∀ e ∈ standardEndings, e.toList.all Glob.isPlain = true := by decide +kernel
    exact ⟨_, Glob.compile_star_plain ending (hplain ending hending)⟩
  · intro text htext
    exact ⟨_, Glob.compile_plain text (hexclude text htext)⟩

/-- By the standard pattern, suite files are those whose names have one of the endings. -/
theorem takes_iff_of_standard (hpattern : c.pattern = blank.pattern) (name : String) :
    c.Takes name ↔ ∃ ending ∈ standardEndings, ending.toList <:+ name.toList := by
  have hplain : ∀ e ∈ standardEndings, e.toList.all Glob.isPlain = true := by decide +kernel
  have hread : ∀ e ∈ standardEndings,
      (∃ g, Glob.compile ("*" ++ e) = .ok g ∧ g.matchesText name = true) ↔ e.toList <:+ name.toList := by
    intro e he
    rw [Glob.compile_star_plain e (hplain e he)]
    simp [Glob.matchesText, Glob.accepts_star_iff]
  rw [Takes, hpattern, alternatives_standard]
  constructor
  · rintro ⟨spelling, hspelling, hmatch⟩
    obtain ⟨ending, hending, rfl⟩ := List.mem_map.1 hspelling
    exact ⟨ending, hending, (hread ending hending).1 hmatch⟩
  · rintro ⟨ending, hending, hmatch⟩
    exact ⟨_, List.mem_map.2 ⟨ending, hending, rfl⟩, (hread ending hending).2 hmatch⟩

/-- Plain names to exclude stand for themselves. -/
theorem leavesOut_iff_of_plain (hexclude : ∀ text ∈ c.exclude, text.toList.all Glob.isPlain = true)
    (name : String) : c.LeavesOut name ↔ name ∈ c.exclude := by
  have hname : ∀ text ∈ c.exclude,
      (∃ g, Glob.compile text = .ok g ∧ g.matchesText name = true) ↔ name = text := by
    intro text htext
    rw [Glob.compile_plain text (hexclude text htext)]
    simp [Glob.matchesText, Glob.accepts_chars_iff, String.toList_inj]
  constructor
  · rintro ⟨text, htext, hmatch⟩
    exact (hname text htext).1 hmatch ▸ htext
  · intro hmem
    exact ⟨name, hmem, (hname name hmem).2 rfl⟩

theorem plain_standard_exclude : ∀ text ∈ standard.exclude, text.toList.all Glob.isPlain = true := by
  decide +kernel

theorem readable_standard : standard.Readable :=
  readable_of_plain (c := standard) rfl plain_standard_exclude

end Config

/-! ## What a scan finds -/

section

variable {takes leavesOut : String → Prop} {recursive : Bool}

/-- The first name is that of the file, or that of a directory from which the others lead on. -/
theorem wanted_cons_iff {name : String} {names : List String} {entries : List (String × FileTree)} :
    Wanted takes leavesOut recursive (.directory entries) (name :: names) ↔
      (names = [] ∧ takes name ∧ ∃ content, Entries.get? name entries = some (.file content)) ∨
      ∃ inner, Entries.get? name entries = some (.directory inner) ∧ recursive = true ∧ ¬ leavesOut name ∧
        Wanted takes leavesOut recursive (.directory inner) names := by
  constructor
  · rintro ⟨⟨content, hfile⟩, ⟨last, hlast, htaken⟩, hflat, hkept⟩
    obtain ⟨t, ht, hrest⟩ := Option.bind_eq_some_iff.1 hfile
    -- With one name the file is in the directory itself.
    rcases names with _ | ⟨next, names⟩
    · obtain rfl : name = last := by simpa using hlast
      cases hrest
      exact .inl ⟨rfl, htaken, content, ht⟩
    · right
      cases t with
      | file content => cases hrest
      | directory inner =>
          have hlonger : recursive = true := by
            cases recursive with
            | false => simpa using hflat rfl
            | true => rfl
          obtain ⟨hname, hnames⟩ := List.forall_mem_cons.1 hkept
          refine ⟨inner, ht, hlonger, hname, ⟨content, hrest⟩, ⟨last, ?_, htaken⟩, ?_, hnames⟩
          · simpa using hlast
          · intro hnot
            rw [hlonger] at hnot
            cases hnot
  · rintro (⟨rfl, htaken, content, hget⟩ | ⟨inner, hget, hrecursive, hname, hinner⟩)
    · have hfile : FileTree.lookup [name] (.directory entries) = some (.file content) := by
        rw [FileTree.lookup, FileTree.entry?, hget]
        rfl
      exact ⟨⟨content, hfile⟩, ⟨name, rfl, htaken⟩, fun _ => rfl, fun _ hmem => absurd hmem List.not_mem_nil⟩
    · obtain ⟨⟨content, hfile⟩, ⟨last, hlast, htaken⟩, -, hkept⟩ := hinner
      rcases names with _ | ⟨next, names⟩
      · cases hlast
      refine ⟨⟨content, ?_⟩, ⟨last, ?_, htaken⟩, ?_, List.forall_mem_cons.2 ⟨hname, hkept⟩⟩
      · rw [FileTree.lookup, FileTree.entry?, hget]
        exact hfile
      · simpa using hlast
      · intro hnot
        rw [hrecursive] at hnot
        cases hnot

end

section

variable (m : Matcher) (recursive : Bool)

/-- What a scan takes is wanted, and the path is that of the names on the way. -/
theorem exists_wanted_of_reaches {dir p : Path} {entries : List (String × FileTree)} {found : String}
    (hwell : (FileTree.directory entries).WellNamed) (hreaches : m.Reaches recursive dir entries p found)
    (hfound : m.isSuiteName found = true) :
    ∃ names, Wanted (m.isSuiteName · = true) (m.excludesDir · = true) recursive (.directory entries) names ∧
      p = dir.below names := by
  induction hreaches with
  | here hfile =>
      cases hwell with
      | directory hnames hnodup hinner =>
          exact ⟨[_], wanted_cons_iff.2 (.inl ⟨rfl, hfound, _, Entries.get?_of_mem hnodup hfile⟩), rfl⟩
  | @deeper _ _ _ inner name _ hdir hrecursive hkept _ ih =>
      cases hwell with
      | directory hnames hnodup hinner =>
          obtain ⟨names, hwanted, rfl⟩ := ih (hinner _ hdir) hfound
          have hget := Entries.get?_of_mem hnodup hdir
          have hname : ¬ m.excludesDir name = true := by rw [hkept]; exact Bool.false_ne_true
          exact ⟨name :: names, wanted_cons_iff.2 (.inr ⟨inner, hget, hrecursive, hname, hwanted⟩), rfl⟩

theorem exists_reaches_of_wanted {dir : Path} {entries : List (String × FileTree)} {names : List String}
    (h : Wanted (m.isSuiteName · = true) (m.excludesDir · = true) recursive (.directory entries) names) :
    ∃ found, m.Reaches recursive dir entries (dir.below names) found ∧ m.isSuiteName found = true := by
  induction names generalizing dir entries with
  | nil =>
      obtain ⟨content, hfile⟩ := h.isFile
      cases hfile
  | cons name names ih =>
      rcases wanted_cons_iff.1 h with ⟨rfl, htaken, content, hget⟩ | ⟨inner, hget, hrecursive, hname, hinner⟩
      · exact ⟨name, .here (Entries.mem_of_get? hget), htaken⟩
      · obtain ⟨found, hreaches, hfound⟩ : ∃ found, m.Reaches recursive (dir.join ⟨name⟩) inner
            ((dir.join ⟨name⟩).below names) found ∧ m.isSuiteName found = true := ih hinner
        have hkept : m.excludesDir name = false := Bool.eq_false_iff.2 hname
        exact ⟨found, .deeper (Entries.mem_of_get? hget) hrecursive hkept hreaches, hfound⟩

/-- A scan finds the paths of the names that lead to what is wanted. -/
theorem mem_suitesOfEntries_iff_wanted {dir p : Path} {entries : List (String × FileTree)}
    (hwell : (FileTree.directory entries).WellNamed) :
    p ∈ suitesOfEntries m recursive dir entries ↔
      ∃ names, Wanted (m.isSuiteName · = true) (m.excludesDir · = true) recursive (.directory entries) names ∧
        p = dir.below names := by
  rw [mem_suitesOfEntries_iff]
  constructor
  · rintro ⟨found, hreaches, hfound⟩
    exact exists_wanted_of_reaches m recursive hwell hreaches hfound
  · rintro ⟨names, hwanted, rfl⟩
    exact exists_reaches_of_wanted m recursive hwanted

/-- What a scan finds of an entry is found by a path that goes on with its name. -/
theorem exists_below_of_mem_entry {dir p : Path} {name : String} {tree : FileTree} (hname : Path.IsName name)
    (hwell : tree.WellNamed) (h : p ∈ suitesOfEntry m recursive (dir.join ⟨name⟩) name tree) :
    ∃ names, (∀ n ∈ name :: names, Path.IsName n) ∧ p = dir.below (name :: names) := by
  -- As what a scan finds of a directory that has this entry only.
  have halone : (FileTree.directory [(name, tree)]).WellNamed :=
    FileTree.wellNamed_cons_iff.2 ⟨hname, hwell, List.not_mem_nil, .directory nofun List.nodup_nil nofun⟩
  have hmem : p ∈ suitesOfEntries m recursive dir [(name, tree)] :=
    (mem_suitesOfEntries m recursive _ _ _).2 ⟨_, List.mem_cons_self, h⟩
  obtain ⟨names, hwanted, rfl⟩ := (mem_suitesOfEntries_iff_wanted m recursive halone).1 hmem
  obtain ⟨content, hfile⟩ := hwanted.isFile
  have hnames := (halone.lookup hfile).1
  rcases names with _ | ⟨first, names⟩
  · cases hfile
  · obtain ⟨t, ht, -⟩ := Option.bind_eq_some_iff.1 hfile
    obtain ⟨rfl, -⟩ : first = name ∧ t = tree := by
      simpa using Entries.mem_of_get? ht
    exact ⟨names, hnames, rfl⟩

-- By recursion on the tree, with a directory as the list of its entries.
mutual

theorem nodup_suitesOfEntry (tree : FileTree) (hwell : tree.WellNamed) (path : Path) (hpath : path.text ≠ "")
    (name : String) : (suitesOfEntry m recursive path name tree).Nodup := by
  cases tree with
  | file content =>
      rw [suitesOfEntry]
      split
      · exact List.nodup_singleton path
      · exact List.nodup_nil
  | directory entries =>
      rw [suitesOfEntry]
      split
      · exact nodup_suitesOfEntries entries hwell path hpath
      · exact List.nodup_nil

theorem nodup_suitesOfEntries (entries : List (String × FileTree))
    (hwell : (FileTree.directory entries).WellNamed) (dir : Path) (hdir : dir.text ≠ "") :
    (suitesOfEntries m recursive dir entries).Nodup := by
  cases entries with
  | nil => exact List.nodup_nil
  | cons e rest =>
      obtain ⟨name, tree⟩ := e
      obtain ⟨hname, htree, hnot, hrest⟩ := FileTree.wellNamed_cons_iff.1 hwell
      rw [suitesOfEntries]
      refine List.Nodup.append ?_ ?_ ?_
      · exact nodup_suitesOfEntry tree htree _ (Path.text_join_ne_empty hdir hname) name
      · exact nodup_suitesOfEntries rest hrest dir hdir
      · -- Paths of different entries go on from the directory with different names.
        intro p hp hp'
        obtain ⟨⟨other, tree'⟩, hmem, hother⟩ := (mem_suitesOfEntries m recursive _ _ _).1 hp'
        cases hrest with
        | directory hnames hnodup hinner =>
            obtain ⟨a, ha, hpa⟩ := exists_below_of_mem_entry m recursive hname htree hp
            obtain ⟨b, hb, hpb⟩ := exists_below_of_mem_entry m recursive (hnames _ hmem) (hinner _ hmem) hother
            obtain ⟨rfl, -⟩ := List.cons.inj (Path.below_injective hdir ha hb (hpa.symm.trans hpb))
            exact hnot (List.mem_map.2 ⟨_, hmem, rfl⟩)

end

end

/-! ## What discovery comes to -/

theorem exists_map_eq {α β : Type} {f : α → β} {p : α → Prop} {ys : List β} (h : ∀ y ∈ ys, ∃ x, p x ∧ y = f x) :
    ∃ xs : List α, xs.map f = ys ∧ ∀ x ∈ xs, p x := by
  induction ys with
  | nil => exact ⟨[], rfl, nofun⟩
  | cons y ys ih =>
      obtain ⟨⟨x, hx, rfl⟩, hrest⟩ := List.forall_mem_cons.1 h
      obtain ⟨xs, rfl, hxs⟩ := ih hrest
      exact ⟨x :: xs, rfl, List.forall_mem_cons.2 ⟨hx, hxs⟩⟩

section

variable {fs : FileSystem} {dir : Path} {entries : List (String × FileTree)} {c : Config}

theorem Config.Wants.isName (hwell : (FileTree.directory entries).WellNamed) {names : List String}
    (h : c.Wants (.directory entries) names) : ∀ name ∈ names, Path.IsName name := by
  obtain ⟨content, hfile⟩ := h.isFile
  exact (hwell.lookup hfile).1

/-- Discovery comes to the names that lead to what the configuration wants, in their order. -/
theorem exists_discovered (hwell : (FileTree.directory entries).WellNamed)
    (hdir : fs.find dir = .ok (.directory entries)) (hc : c.Readable) :
    ∃ found : List (List String), discoverSuites fs dir c = .ok (found.map dir.below) ∧
      (∀ names, names ∈ found ↔ c.Wants (.directory entries) names) ∧ Path.Ascending found := by
  have htext := FileSystem.text_ne_empty_of_find fs hdir
  obtain ⟨m, hm, htakes, hleavesOut⟩ := Matcher.exists_ofConfig hc
  have hwants : Wanted (m.isSuiteName · = true) (m.excludesDir · = true) c.recursive = c.Wants := by
    rw [Config.Wants, funext fun name => propext (htakes name), funext fun name => propext (hleavesOut name)]
  have hmem : ∀ p, p ∈ (suitesOfEntries m c.recursive dir entries).mergeSort Path.le ↔
      ∃ names, c.Wants (.directory entries) names ∧ p = dir.below names := by
    intro p
    rw [List.mem_mergeSort, mem_suitesOfEntries_iff_wanted m c.recursive hwell, hwants]
  -- The names are chosen for the paths that are found, in their order; no path has two lists of names.
  obtain ⟨found, hfound, hwanted⟩ := exists_map_eq fun p hp => (hmem p).1 hp
  refine ⟨found, ?_, ?_, ?_⟩
  · rw [discoverSuites_of_matcher fs dir entries c m hm hdir, hfound]
  · intro names
    refine ⟨hwanted names, fun hnames => ?_⟩
    have hpath : dir.below names ∈ found.map dir.below := by
      rw [hfound]
      exact (hmem _).2 ⟨names, hnames, rfl⟩
    obtain ⟨other, hother, heq⟩ := List.mem_map.1 hpath
    exact Path.below_injective htext ((hwanted other hother).isName hwell) (hnames.isName hwell) heq ▸ hother
  · refine Path.ascending_of_below htext (fun names hnames => (hwanted names hnames).isName hwell) ?_ ?_
    · rw [hfound]
      exact (List.mergeSort_perm _ _).nodup_iff.2 (nodup_suitesOfEntries m c.recursive entries hwell dir htext)
    · rw [hfound]
      exact List.pairwise_mergeSort Path.le_trans Path.le_total _

end

/-- In a tree of files, discovery below a directory comes to a list of names. They are exactly the names that lead
from the directory to a file, whose own name matches a spelling of the pattern, over directories that are not left
out; without recursion there is no directory on the way. The names are in strict order, and what is discovered are
the paths that they lead to: no path comes twice, they are sorted by their components, and each of them leads to its
file. -/
theorem discovery_law (fs : FileSystem) (hfs : fs.root.WellNamed) (dir : Path)
    (entries : List (String × FileTree)) (hdir : fs.find dir = .ok (.directory entries)) (c : Config)
    (hc : c.Readable) :
    ∃ found : List (List String), discoverSuites fs dir c = .ok (found.map dir.below) ∧
      (∀ names, names ∈ found ↔ c.Wants (.directory entries) names) ∧
      found.Pairwise (List.Lex (· < ·)) ∧
      (found.map dir.below).Nodup ∧
      ((found.map dir.below).Pairwise fun a b => a.le b = true) ∧
      ∀ names ∈ found, (dir.below names).components = dir.components ++ names.map .name ∧
        fs.isFile (dir.below names) = true := by
  have htext := FileSystem.text_ne_empty_of_find fs hdir
  obtain ⟨place, -, hplace⟩ := (FileSystem.find_eq_ok_iff fs).1 hdir
  have hwell := (hfs.lookup hplace).2
  obtain ⟨found, hdiscover, hwants, hsorted⟩ := exists_discovered hwell hdir hc
  have hnames : ∀ names ∈ found, ∀ name ∈ names, Path.IsName name :=
    fun names hmem => ((hwants names).1 hmem).isName hwell
  obtain ⟨hnodup, hpaths⟩ := Path.Ascending.below htext hsorted hnames
  refine ⟨found, hdiscover, hwants, hsorted, hnodup, hpaths, ?_⟩
  intro names hmem
  obtain ⟨content, hfile⟩ := ((hwants names).1 hmem).isFile
  refine ⟨Path.components_below htext (hnames names hmem), ?_⟩
  rw [FileSystem.isFile, FileSystem.find_below fs hwell hdir hfile]

/-- A directory that is searched although its own name is to be left out: what is in it is found, and what is
in a directory of this name further below is not. -/
theorem discovery_law_excluded :
    let suite : FileTree := .file (Text.Encoded.ofString "tests: []\n")
    let deep : FileTree := .directory [("target", .directory [("x.apicheck.yaml", suite)])]
    let entries :=
      [("a", .directory [("z.apicheck.yaml", suite)]), ("a.apicheck.yml", suite), ("deep", deep), ("notes.yaml", suite)]
    let fs : FileSystem := ⟨.directory [("target", .directory entries)], []⟩
    ∃ files, discoverSuites fs ⟨"target"⟩ Config.standard = .ok files ∧ files.Nodup ∧
      (files.Pairwise fun a b => a.le b = true) ∧
      ⟨"target/a/z.apicheck.yaml"⟩ ∈ files ∧ ⟨"target/a.apicheck.yml"⟩ ∈ files ∧
      ⟨"target/deep/target/x.apicheck.yaml"⟩ ∉ files ∧ ⟨"target/notes.yaml"⟩ ∉ files := by
  intro suite deep entries fs
  have hdir : fs.find ⟨"target"⟩ = .ok (.directory entries) := rfl
  have hfs : fs.root.WellNamed := by
    simp only [fs, entries, deep, suite, FileTree.wellNamed_cons_iff, FileTree.wellNamed_nil_iff,
      FileTree.wellNamed_file_iff]
    decide +kernel
  obtain ⟨found, hdiscover, hwants, -, hnodup, hsorted, hfound⟩ :=
    discovery_law fs hfs ⟨"target"⟩ entries hdir Config.standard Config.readable_standard
  have htaken := Config.takes_iff_of_standard (c := Config.standard) rfl
  have hleft := Config.leavesOut_iff_of_plain Config.plain_standard_exclude
  have hyaml : Config.standard.Wants (.directory entries) ["a", "z.apicheck.yaml"] := by
    refine ⟨⟨_, rfl⟩, ⟨_, rfl, (htaken _).2 ⟨".apicheck.yaml", by decide +kernel⟩⟩, nofun, ?_⟩
    simp only [hleft]
    decide +kernel
  have hyml : Config.standard.Wants (.directory entries) ["a.apicheck.yml"] := by
    refine ⟨⟨_, rfl⟩, ⟨_, rfl, (htaken _).2 ⟨".apicheck.yml", by decide +kernel⟩⟩, nofun, ?_⟩
    simp only [hleft]
    decide +kernel
  have hwanted : ∀ names p, (Path.mk "target").components ++ names.map .name = Path.components p →
      p ∈ found.map (Path.mk "target").below → Config.standard.Wants (.directory entries) names := by
    intro names p hcomponents hmem
    obtain ⟨other, hother, rfl⟩ := List.mem_map.1 hmem
    rw [(hfound other hother).1, List.append_cancel_left_eq] at hcomponents
    obtain rfl := List.map_injective_iff.2 (fun _ _ => Path.Component.name.inj) hcomponents
    exact (hwants names).1 hother
  refine ⟨_, hdiscover, hnodup, hsorted, ?_, ?_, ?_, ?_⟩
  · exact List.mem_map.2 ⟨_, (hwants _).2 hyaml, by decide +kernel⟩
  · exact List.mem_map.2 ⟨_, (hwants _).2 hyml, by decide +kernel⟩
  · intro hmem
    have hdeep := hwanted ["deep", "target", "x.apicheck.yaml"] _ (by decide +kernel) hmem
    exact hdeep.kept "target" (by decide) ((hleft _).2 (by decide))
  · intro hmem
    obtain ⟨name, hlast, htakes⟩ := (hwanted ["notes.yaml"] _ (by decide +kernel) hmem).taken
    cases hlast
    rw [htaken] at htakes
    revert htakes
    decide +kernel

end Probe
