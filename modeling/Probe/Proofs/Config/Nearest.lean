import Mathlib.Data.List.Induction
import Probe.Cli.Program
import Probe.Proofs.Except
import Probe.Proofs.Files.Trees

/-!
# The nearest configuration file

Without a file that is asked for, the configuration comes from the first directory with a configuration file, on the
way from a directory to the root. It is what the file gives when it is asked for; but when the file cannot be loaded,
this is told only if it is asked for, and else the standard configuration is taken. Main statements:

* `nearestDir?_concat`, `isNearest_of_nearestDir?`: one step of the search, and the directory where it ends.
* `nearest_law`: the configuration that is found, next to the one that is asked for.
-/

namespace Probe

namespace Config

variable (fs : FileSystem)

/-- A directory has an entry of the name of configuration files. -/
def Holds (dir : List String) : Prop :=
  (fs.root.lookup (dir ++ [fileName])).isSome = true

instance (dir : List String) : Decidable (Holds fs dir) :=
  inferInstanceAs (Decidable (_ = _))

/-- The innermost one of the directories on the way from a directory to the root that hold a configuration file. -/
structure IsNearest (start dir : List String) : Prop where
  around : dir <+: start
  holds : Holds fs dir
  innermost : ∀ other, other <+: start → Holds fs other → other <+: dir

theorem ancestors_concat (names : List String) (name : String) :
    FileSystem.ancestors (names ++ [name]) = (names ++ [name]) :: FileSystem.ancestors names := by
  -- The directories further out do not reach the last name.
  have houter : ∀ n ∈ (List.range (names.length + 1)).reverse, (names ++ [name]).take n = names.take n := by
    intro n hn
    have hle : n ≤ names.length := by
      rw [List.mem_reverse, List.mem_range] at hn
      omega
    exact List.take_append_of_le_length hle
  rw [FileSystem.ancestors, FileSystem.ancestors, List.length_append, List.length_singleton, List.range_succ,
    List.reverse_concat, List.map_cons, List.map_congr_left houter]
  congr 1
  exact List.take_of_length_le (by simp)

/-- The search ends in a directory that holds a configuration file, and goes on to the one around it otherwise. -/
theorem nearestDir?_concat (names : List String) (name : String) :
    nearestDir? fs (names ++ [name]) =
      if Holds fs (names ++ [name]) then some (names ++ [name]) else nearestDir? fs names := by
  rw [nearestDir?, ancestors_concat]
  by_cases h : Holds fs (names ++ [name])
  · rw [if_pos h]
    exact List.find?_cons_of_pos h
  · rw [if_neg h]
    exact List.find?_cons_of_neg h

theorem nearestDir?_nil : nearestDir? fs [] = if Holds fs [] then some [] else none := by
  rw [nearestDir?, show FileSystem.ancestors [] = [[]] from rfl]
  by_cases h : Holds fs []
  · rw [if_pos h]
    exact List.find?_cons_of_pos h
  · rw [if_neg h]
    exact List.find?_cons_of_neg h

theorem IsNearest.here {start : List String} (h : Holds fs start) : IsNearest fs start start where
  around := List.prefix_rfl
  holds := h
  innermost _ haround _ := haround

theorem IsNearest.concat {names dir : List String} {name : String} (h : IsNearest fs names dir)
    (hnot : ¬ Holds fs (names ++ [name])) : IsNearest fs (names ++ [name]) dir where
  around := h.around.trans (List.prefix_append _ _)
  holds := h.holds
  innermost := by
    intro other haround hholds
    rcases List.prefix_concat_iff.1 haround with rfl | haround
    · exact absurd hholds hnot
    · exact h.innermost other haround hholds

/-- The search ends in the nearest directory with a configuration file. -/
theorem isNearest_of_nearestDir? {start dir : List String} (h : nearestDir? fs start = some dir) :
    IsNearest fs start dir := by
  -- From the outside to the inside: a step of the search goes back by one name.
  induction start using List.reverseRecOn with
  | nil =>
      rw [nearestDir?_nil] at h
      split at h
      · next hholds =>
          cases h
          exact .here fs hholds
      · cases h
  | append_singleton names name ih =>
      rw [nearestDir?_concat] at h
      split at h
      · next hholds =>
          cases h
          exact .here fs hholds
      · next hnot => exact (ih h).concat fs hnot

/-- The search fails only if no directory on the way holds a configuration file. -/
theorem not_holds_of_nearestDir? {start dir : List String} (h : nearestDir? fs start = none)
    (haround : dir <+: start) : ¬ Holds fs dir := by
  induction start using List.reverseRecOn with
  | nil =>
      rw [nearestDir?_nil] at h
      split at h
      · cases h
      · next hnot =>
          obtain rfl := List.prefix_nil.1 haround
          exact hnot
  | append_singleton names name ih =>
      rw [nearestDir?_concat] at h
      split at h
      · cases h
      · next hnot =>
          rcases List.prefix_concat_iff.1 haround with rfl | haround
          · exact hnot
          · exact ih h haround

/-! ## Loading -/

/-- The configuration that a file holds, if it can be loaded. -/
def held? : FileTree → Option Config
  | .file content => content.toString?.bind fun text => (parse text).toOption
  | .directory _ => none

theorem readFile_of_find {p : Path} {t : FileTree} (h : fs.find p = .ok t) :
    (readFile fs p).toOption = held? t := by
  cases t with
  | directory entries =>
      have hread : fs.readText p = .error .isDirectory := by rw [FileSystem.readText, h]; rfl
      rw [readFile, hread]
      rfl
  | file content =>
      cases hcontent : content.toString? with
      | none =>
          have hread : fs.readText p = .error .notText := by
            rw [FileSystem.readText, h]
            simp [bind, Except.bind, hcontent]
          rw [readFile, hread, held?, hcontent]
          rfl
      | some text =>
          have hread : fs.readText p = .ok text := by
            rw [FileSystem.readText, h]
            simp [bind, Except.bind, hcontent]
          rw [readFile, hread, held?, hcontent]
          simp only [Option.bind_some]
          cases parse text <;> rfl

theorem discover_eq {start : Path} {names : List String} (h : fs.resolve start = .ok names) :
    discover fs start = (nearestDir? fs names).bind fun dir =>
      (readFile fs (FileSystem.absolute (dir ++ [fileName]))).toOption.map (·, FileSystem.absolute dir) := by
  rw [discover, h]
  simp only [bind]
  congr 1
  funext dir
  cases readFile fs (FileSystem.absolute (dir ++ [fileName])) <;> rfl

end Config

namespace Cli

theorem configOf_given (fs : FileSystem) {s : Selection} {file : Path} (hs : s.config = some file) :
    configOf fs s = match Config.readFile fs file with
      | .ok c => .ok (c.override s.overrides, some (file.parent?.getD ⟨"."⟩))
      | .error e => .error (.config e) := by
  rw [configOf, hs]
  simp only [Config.load, bind, Except.bind]
  cases Config.readFile fs file <;> rfl

/-- The configuration of a selection that asks for no configuration file. If a directory on the way from where it
starts to the root holds one, the nearest one counts: when it can be loaded, the selection has the same configuration,
of the same directory, as with this file asked for; when it cannot, then this is an error only if the file is asked
for, and without that the standard configuration takes its place. If there is none, it is the standard
configuration. -/
theorem nearest_law (fs : FileSystem) (hfs : fs.root.WellNamed) (s : Selection) (hs : s.config = none)
    (start : List String) (hstart : fs.resolve (startDir fs s.path) = .ok start) :
    (∃ dir t, Config.IsNearest fs start dir ∧ fs.root.lookup (dir ++ [Config.fileName]) = some t ∧
      let asked := configOf fs { s with config := some (FileSystem.absolute (dir ++ [Config.fileName])) }
      match Config.held? t with
      | some c =>
          asked = .ok (c.override s.overrides, some (FileSystem.absolute dir)) ∧ configOf fs s = asked
      | none =>
          (∃ e, asked = .error (.config e)) ∧
            configOf fs s = .ok (Config.standard.override s.overrides, none)) ∨
    (∀ dir, dir <+: start → ¬ Config.Holds fs dir) ∧
      configOf fs s = .ok (Config.standard.override s.overrides, none) := by
  have hfound := Config.discover_eq fs hstart
  cases hnear : Config.nearestDir? fs start with
  | none =>
      rw [hnear, Option.bind_none] at hfound
      refine .inr ⟨fun dir haround => Config.not_holds_of_nearestDir? fs hnear haround, ?_⟩
      rw [configOf, hs]
      simp only [hfound]
  | some dir =>
      have hnearest := Config.isNearest_of_nearestDir? fs hnear
      obtain ⟨t, ht⟩ := Option.isSome_iff_exists.1 hnearest.holds
      have hread := Config.readFile_of_find fs (FileSystem.find_absolute fs hfs (by simp) ht)
      -- The way to the file consists of names, so that its parent is the directory that was found.
      have hparent := FileSystem.parent?_absolute (hfs.lookup ht).1
      rw [hnear, Option.bind_some, hread] at hfound
      refine .inl ⟨dir, t, hnearest, ht, ?_⟩
      intro asked
      have hasked : asked = _ := configOf_given fs rfl
      rw [hparent] at hasked
      cases hheld : Config.held? t with
      | some c =>
          rw [hheld] at hread hfound
          rw [eq_ok_of_toOption hread] at hasked
          refine ⟨hasked, ?_⟩
          rw [hasked, configOf, hs]
          simp only [hfound, Option.map_some]
          rfl
      | none =>
          -- What discovery gives does not tell this from no file at all.
          rw [hheld] at hread hfound
          obtain ⟨e, he⟩ := exists_of_toOption_eq_none hread
          rw [he] at hasked
          refine ⟨⟨e, hasked⟩, ?_⟩
          rw [configOf, hs]
          simp only [hfound, Option.map_none]

/-- Of two files on the way the inner one counts, whether it is asked for or not. -/
theorem nearest_law_inner :
    let service : FileTree := .directory
      [(".apicheck.yaml", .file (Text.Encoded.ofString "host: inner\n")), ("api", .directory [])]
    let fs : FileSystem := ⟨.directory
      [(".apicheck.yaml", .file (Text.Encoded.ofString "host: outer\n")), ("service", service)], []⟩
    let s : Selection := ⟨⟨"service/api"⟩, ⟨none, none, false⟩, none⟩
    configOf fs s = .ok ({ Config.blank with host := "inner" }, some ⟨"/service"⟩) ∧
      configOf fs s = configOf fs { s with config := some ⟨"/service/.apicheck.yaml"⟩ } := by
  intro service fs s
  have hfs : fs.root.WellNamed := by
    simp only [fs, service, FileTree.wellNamed_cons_iff, FileTree.wellNamed_nil_iff, FileTree.wellNamed_file_iff]
    decide +kernel
  have hstart : fs.resolve (startDir fs s.path) = .ok ["service", "api"] :=
    eq_ok_of_toOption (by decide +kernel)
  have hservice : Config.Holds fs ["service"] := by decide +kernel
  have hapi : ¬ Config.Holds fs ["service", "api"] := by decide +kernel
  rcases nearest_law fs hfs s rfl _ hstart with ⟨dir, t, hnearest, ht, hloaded⟩ | ⟨hnone, -⟩
  · obtain rfl : dir = ["service"] := by
      have hinner : ["service"] <+: dir := hnearest.innermost _ ⟨["api"], rfl⟩ hservice
      rcases List.prefix_concat_iff.1 (show dir <+: ["service"] ++ ["api"] from hnearest.around) with rfl | houter
      · exact absurd hnearest.holds hapi
      · exact houter.eq_of_length_le hinner.length_le
    cases ht
    have hheld : Config.held? (.file (Text.Encoded.ofString "host: inner\n")) =
        some { Config.blank with host := "inner" } := by decide +kernel
    rw [hheld] at hloaded
    obtain ⟨hasked, hsame⟩ := hloaded
    exact ⟨hsame.trans hasked, hsame⟩
  · exact absurd hservice (hnone _ ⟨["api"], rfl⟩)

/-- A configuration file that cannot be read is passed over without a word when it is found, though it is an error
when it is asked for: its settings do not count, and nobody is told. -/
theorem malformed_passed_over :
    let suite : FileTree := .file (Text.Encoded.ofString "tests: []\n")
    let config : FileTree := .file (Text.Encoded.ofString "recursive: maybe\n")
    let fs : FileSystem := ⟨.directory [(".apicheck.yaml", config), ("a.apicheck.yaml", suite)], []⟩
    let s : Selection := ⟨⟨"."⟩, ⟨none, none, false⟩, none⟩
    Config.Holds fs [] ∧ fs.resolve (startDir fs s.path) = .ok [] ∧
      (configOf fs { s with config := some ⟨"/.apicheck.yaml"⟩ }).mapError Failure.chain =
        .error ["Failed to parse config file: \"/.apicheck.yaml\"",
          "recursive: invalid type: string \"maybe\", expected a boolean"] ∧
      configOf fs s = .ok (Config.standard, none) := by
  intro suite config fs s
  exact ⟨by decide +kernel, eq_ok_of_toOption (by decide +kernel), by decide +kernel,
    eq_ok_of_toOption (by decide +kernel)⟩

end Cli

end Probe
