import Probe.Cli.Program
import Probe.Proofs.Discovery.Scan

/-!
# Configuration files in scanned directories

The standard pattern takes the names with one of two endings for those of suite files. Its star may stand
for nothing, and the name of a configuration file is one of the endings: wherever a scan comes to a
configuration file, it takes it for a suite file. Main statements:

* `ofConfig_of_standard`: the matcher of the standard pattern.
* `isSuiteName_standard_iff`: which names it takes.
* `config_file_discovered`: what discovery and the selection of suites come to.
-/

namespace Probe

/-- What the name of a suite file ends in, by the standard pattern. -/
def standardEndings : List String := [".apicheck.yaml", ".apicheck.yml"]

theorem fileName_mem_standardEndings : Config.fileName ∈ standardEndings := List.mem_cons_self

/-! ## Reading the pattern -/

/-- The standard pattern stands for a star with one of the endings. -/
theorem alternatives_standard : alternatives Config.blank.pattern = standardEndings.map ("*" ++ ·) := by
  have hgroup : firstGroup? Config.blank.pattern.toList =
      some ("*.apicheck.".toList, ["yaml".toList, "yml".toList], []) := by decide +kernel
  rw [alternatives, spell_of_group hgroup, spell_of_no_group rfl]
  decide +kernel

/-- Whether a character has no special meaning in a pattern. -/
def Glob.isPlain (c : Char) : Bool :=
  c != '?' && c != '*' && c != '['

/-- Plain characters are read as themselves. -/
theorem Glob.compileFrom_plain (fuel i : Nat) (last : Option Char) (found : List GlobToken)
    (text : List Char) (hplain : text.all isPlain = true) (hfuel : text.length < fuel) :
    compileFrom fuel i last found text = .ok (found.reverse ++ text.map .char) := by
  induction text generalizing fuel i last found with
  | nil =>
      obtain ⟨fuel, rfl⟩ := Nat.exists_eq_add_of_lt hfuel
      simp [compileFrom]
  | cons c text ih =>
      rw [List.all_cons, Bool.and_eq_true] at hplain
      obtain ⟨hc, htext⟩ := hplain
      cases fuel with
      | zero => simp at hfuel
      | succ fuel =>
          have hread : compileFrom (fuel + 1) i last found (c :: text) =
              compileFrom fuel (i + 1) (some c) (.char c :: found) text := by
            rw [compileFrom] <;> rintro rfl <;> simp [isPlain] at hc
          rw [hread, ih fuel (i + 1) (some c) _ htext (Nat.lt_of_succ_lt_succ hfuel)]
          simp

theorem Glob.compile_plain (text : String) (hplain : text.toList.all isPlain = true) :
    compile text = .ok (text.toList.map .char) := by
  rw [compile, compileFrom_plain _ 0 none [] _ hplain (Nat.lt_succ_self _), List.reverse_nil, List.nil_append]

/-- A star before plain characters is read as one star. -/
theorem Glob.compile_star_plain (text : String) (hplain : text.toList.all isPlain = true) :
    compile ("*" ++ text) = .ok (.anyText :: text.toList.map .char) := by
  have htext : ("*" ++ text).toList = '*' :: text.toList := by rw [String.toList_append]; rfl
  -- A second star would change the meaning of the first one.
  have hstars : text.toList.takeWhile (· == '*') = [] := by
    cases h : text.toList with
    | nil => rfl
    | cons c rest =>
        have hc : c ≠ '*' := by
          rintro rfl
          simp [h, isPlain] at hplain
        simp [hc]
  rw [compile, htext, compileFrom]
  simp only [hstars, List.length_nil, List.drop_zero, if_pos]
  exact compileFrom_plain _ 1 (some '*') [.anyText] text.toList hplain (Nat.lt_succ_self _)

namespace Matcher

/-- The matcher of the standard pattern, with patterns to exclude. -/
def standard (exclude : List Glob) : Matcher :=
  ⟨standardEndings.map fun ending => .anyText :: ending.toList.map .char, exclude⟩

/-- Reads patterns to exclude. -/
def readExclude (texts : List String) : Except MatcherError (List Glob) :=
  texts.mapM fun text => (Glob.compile text).mapError (.exclude text)

/-- With the standard pattern, only a pattern to exclude can be at fault. -/
theorem ofConfig_of_standard (c : Config) (hpattern : c.pattern = Config.blank.pattern) :
    ofConfig c = (readExclude c.exclude).map standard := by
  have hread : (alternatives c.pattern).mapM
      (fun a => (Glob.compile a).mapError (MatcherError.pattern c.pattern)) =
        .ok (standardEndings.map fun ending => .anyText :: ending.toList.map .char) := by
    have hyaml := Glob.compile_star_plain ".apicheck.yaml" (by decide +kernel)
    have hyml := Glob.compile_star_plain ".apicheck.yml" (by decide +kernel)
    rw [hpattern, alternatives_standard]
    simp only [standardEndings, List.map_cons, List.map_nil, List.mapM_cons, List.mapM_nil, hyaml, hyml]
    rfl
  simp only [ofConfig, readExclude, hread, bind, Except.bind]
  cases c.exclude.mapM fun text => (Glob.compile text).mapError (MatcherError.exclude text) <;> rfl

theorem readExclude_cons (text : String) (rest : List String) :
    readExclude (text :: rest) =
      match Glob.compile text with
      | .error why => .error (.exclude text why)
      | .ok g => (readExclude rest).map (g :: ·) := by
  rw [readExclude, List.mapM_cons]
  cases Glob.compile text with
  | error why => rfl
  | ok g => cases h : readExclude rest <;> rw [readExclude] at h <;> rw [h] <;> rfl

theorem exists_of_readExclude_error {texts : List String} {e : MatcherError}
    (h : readExclude texts = .error e) :
    ∃ text ∈ texts, ∃ why, Glob.compile text = .error why ∧ e = .exclude text why := by
  induction texts with
  | nil => cases h
  | cons text rest ih =>
      rw [readExclude_cons] at h
      cases hread : Glob.compile text with
      | error why =>
          rw [hread] at h
          exact ⟨text, List.mem_cons_self, why, hread, (Except.error.inj h).symm⟩
      | ok g =>
          have hrest : readExclude rest = .error e := by
            cases hr : readExclude rest with
            | error e' => simpa [hread, hr, Except.map] using h
            | ok gs => simp [hread, hr, Except.map] at h
          obtain ⟨other, hother, hwhy⟩ := ih hrest
          exact ⟨other, List.mem_cons_of_mem text hother, hwhy⟩

/-- The standard pattern takes the names with one of the endings for those of suite files, also where
nothing stands before the ending. -/
theorem isSuiteName_standard_iff (exclude : List Glob) (name : String) :
    (standard exclude).isSuiteName name = true ↔
      ∃ ending ∈ standardEndings, ending.toList <:+ name.toList := by
  simp [standard, isSuiteName, Glob.matchesText, Glob.accepts_star_iff]

end Matcher

/-! ## Scanning a directory -/

/-- With the standard pattern, discovery fails only for an ill-formed pattern to exclude. Otherwise it
finds exactly the files that the scan comes to and whose names have one of the endings. So every
configuration file that the scan comes to is found, be it that of the directory itself or one further
below, and is among the suite files of every selection that searches this directory. -/
theorem config_file_discovered (fs : FileSystem) (dir : Path) (entries : List (String × FileTree))
    (c : Config) (hpattern : c.pattern = Config.blank.pattern)
    (hdir : fs.find dir = .ok (.directory entries)) :
    match Matcher.ofConfig c with
    | .error e =>
        discoverSuites fs dir c = .error (.matcher e) ∧
          ∃ text ∈ c.exclude, ∃ why, Glob.compile text = .error why ∧ e = .exclude text why
    | .ok m => ∃ files, discoverSuites fs dir c = .ok files ∧
        (∀ p, p ∈ files ↔ ∃ name, m.Reaches c.recursive dir entries p name ∧
          ∃ ending ∈ standardEndings, ending.toList <:+ name.toList) ∧
        (∀ p, m.Reaches c.recursive dir entries p Config.fileName → p ∈ files) ∧
        ∀ (s : Cli.Selection) (place : Option Path), Cli.configOf fs s = .ok (c, place) →
          fs.isFile s.path = false → fs.hasPath s.path = true → c.searchDir s.path place = dir →
          Cli.select fs s = .ok (c, files) := by
  rw [Matcher.ofConfig_of_standard c hpattern]
  cases hexclude : Matcher.readExclude c.exclude with
  | error e =>
      have hm : Matcher.ofConfig c = .error e := by
        rw [Matcher.ofConfig_of_standard c hpattern, hexclude]
        rfl
      refine ⟨?_, Matcher.exists_of_readExclude_error hexclude⟩
      rw [discoverSuites, hm]
      rfl
  | ok exclude =>
      have hm : Matcher.ofConfig c = .ok (.standard exclude) := by
        rw [Matcher.ofConfig_of_standard c hpattern, hexclude]
        rfl
      have hdiscover := discoverSuites_of_matcher fs dir entries c _ hm hdir
      have hfound : ∀ p,
          p ∈ (suitesOfEntries (.standard exclude) c.recursive dir entries).mergeSort Path.le ↔
            ∃ name, (Matcher.standard exclude).Reaches c.recursive dir entries p name ∧
              ∃ ending ∈ standardEndings, ending.toList <:+ name.toList := by
        intro p
        rw [List.mem_mergeSort, mem_suitesOfEntries_iff]
        simp only [Matcher.isSuiteName_standard_iff]
      refine ⟨_, hdiscover, hfound, ?_, ?_⟩
      · -- The name of the file is the ending, with nothing before it.
        intro p hreaches
        exact (hfound p).2 ⟨_, hreaches, _, fileName_mem_standardEndings, List.suffix_rfl⟩
      · intro s place hconfig hfile hpath hsearch
        simp only [Cli.select, hconfig, hfile, hpath, hsearch, hdiscover, bind, Except.bind]
        rfl

/-- A project with a configuration file in its directory and another one below: both are among the suite
files of the project. -/
theorem config_file_discovered_twice :
    let text (t : String) : FileTree := .file (Text.Encoded.ofString t)
    let shop :=
      [("cart.apicheck.yaml", text "tests: []\n"), (".apicheck.yaml", text "recursive: false\n")]
    let entries := [(".apicheck.yaml", text "host: localhost\n"), ("shop", .directory shop)]
    let fs : FileSystem := ⟨.directory entries, []⟩
    let s : Cli.Selection := ⟨⟨"."⟩, ⟨none, none, false⟩, none⟩
    ∃ files, Cli.select fs s = .ok (Config.blank, files) ∧
      ⟨"./.apicheck.yaml"⟩ ∈ files ∧ ⟨"./shop/.apicheck.yaml"⟩ ∈ files ∧
      ⟨"./shop/cart.apicheck.yaml"⟩ ∈ files := by
  intro text shop entries fs s
  have hdir : fs.find ⟨"."⟩ = .ok (.directory entries) := rfl
  have hconfig : (Cli.configOf fs s).toOption = some (Config.blank, some ⟨"/"⟩) := by decide +kernel
  have hload : Cli.configOf fs s = .ok (Config.blank, some ⟨"/"⟩) := by
    cases h : Cli.configOf fs s with
    | error e => simp [h, Except.toOption] at hconfig
    | ok found => simpa [h, Except.toOption] using hconfig
  have hlaw := config_file_discovered fs ⟨"."⟩ entries Config.blank rfl hdir
  rw [Matcher.ofConfig_of_standard Config.blank rfl] at hlaw
  obtain ⟨files, -, hfound, hnamed, hselect⟩ := hlaw
  have hshop : ("shop", .directory shop) ∈ entries := List.mem_cons_of_mem _ List.mem_cons_self
  have hcart : (Matcher.standard []).Reaches true ⟨"."⟩ entries ⟨"./shop/cart.apicheck.yaml"⟩
      "cart.apicheck.yaml" :=
    .deeper hshop rfl rfl (.here List.mem_cons_self)
  refine ⟨files, hselect s _ hload (by decide +kernel) (by decide +kernel) rfl, ?_, ?_, ?_⟩
  · exact hnamed _ (.here List.mem_cons_self)
  · exact hnamed _ (.deeper hshop rfl rfl (.here (List.mem_cons_of_mem _ List.mem_cons_self)))
  · exact (hfound _).2 ⟨_, hcart, ".apicheck.yaml", List.mem_cons_self, by decide +kernel⟩

/-- The configuration file of a project is taken for a suite file, and cannot be loaded as one. -/
theorem config_file_refused :
    let text (t : String) : FileTree := .file (Text.Encoded.ofString t)
    let entries :=
      [(".apicheck.yaml", text "host: localhost\n"), ("a.apicheck.yaml", text "tests: []\n")]
    let fs : FileSystem := ⟨.directory entries, []⟩
    (∃ files, discoverSuites fs ⟨"."⟩ Config.blank = .ok files ∧ ⟨"./.apicheck.yaml"⟩ ∈ files) ∧
      (Path.mk "./.apicheck.yaml").fileName? = some Config.fileName ∧
      (Suite.load fs ⟨"./.apicheck.yaml"⟩).isOk = false := by
  intro text entries fs
  have hdir : fs.find ⟨"."⟩ = .ok (.directory entries) := rfl
  have hdiscover := discoverSuites_of_matcher fs ⟨"."⟩ entries Config.blank (.standard [])
    (Matcher.ofConfig_of_standard _ rfl) hdir
  refine ⟨⟨_, hdiscover, ?_⟩, by decide +kernel, by decide +kernel⟩
  have hfound : ⟨"./.apicheck.yaml"⟩ ∈ suitesOfEntries (.standard []) true ⟨"."⟩ entries := by
    decide +kernel
  exact List.mem_mergeSort.2 hfound

end Probe
