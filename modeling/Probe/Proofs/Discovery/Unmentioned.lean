import Probe.Proofs.Config.Fields
import Probe.Proofs.Discovery.Found

/-!
# Discovery with a file that does not mention it

A configuration file that says nothing about discovery has the standard pattern and searches all directories, as the
standard configuration does; but the directories that this one leaves out are searched too. Main statements:

* `wants_standard_iff`: what the standard configuration wants of what such a file wants.
* `unmentioned_law`: what is discovered with such a file, and what without it.
-/

namespace Probe

/-- Whether the standard configuration leaves out no directory on the way. -/
def keptByStandard (names : List String) : Bool :=
  names.dropLast.all fun name => !Config.standard.exclude.contains name

theorem keptByStandard_iff {names : List String} :
    keptByStandard names = true ↔ ∀ name ∈ names.dropLast, name ∉ Config.standard.exclude := by
  simp [keptByStandard]

theorem map_filter_eq_map_iff {α β : Type} {f : α → β} {p : α → Bool} {l : List α} :
    (l.filter p).map f = l.map f ↔ ∀ a ∈ l, p a = true := by
  constructor
  · intro heq
    have hlength := congrArg List.length heq
    rw [List.length_map, List.length_map] at hlength
    exact List.length_filter_eq_length_iff.1 hlength
  · intro hall
    rw [List.filter_eq_self.2 hall]

section

variable {c : Config} (hc : c.SearchesAs .blank)

include hc

theorem Config.SearchesAs.readable : c.Readable := by
  refine Config.readable_of_plain hc.pattern ?_
  rw [hc.exclude]
  exact nofun

/-- Such a file wants every file with the name of a suite file. -/
theorem Config.SearchesAs.wants_iff {dir : FileTree} {names : List String} :
    c.Wants dir names ↔ (∃ content, dir.lookup names = some (.file content)) ∧
      ∃ name ∈ names.getLast?, ∃ ending ∈ standardEndings, ending.toList <:+ name.toList := by
  constructor
  · rintro ⟨hfile, ⟨name, hlast, htaken⟩, -, -⟩
    exact ⟨hfile, name, hlast, (Config.takes_iff_of_standard hc.pattern name).1 htaken⟩
  · rintro ⟨hfile, name, hlast, htaken⟩
    refine ⟨hfile, ⟨name, hlast, (Config.takes_iff_of_standard hc.pattern name).2 htaken⟩, ?_, ?_⟩
    · intro hflat
      rw [hc.recursive] at hflat
      cases hflat
    · rintro other - ⟨text, htext, -⟩
      rw [hc.exclude] at htext
      cases htext

theorem wants_standard_iff {dir : FileTree} {names : List String} :
    Config.standard.Wants dir names ↔ c.Wants dir names ∧ keptByStandard names = true := by
  have hleft := Config.leavesOut_iff_of_plain Config.plain_standard_exclude
  rw [hc.wants_iff, keptByStandard_iff]
  constructor
  · rintro ⟨hfile, ⟨name, hlast, htaken⟩, -, hkept⟩
    exact ⟨⟨hfile, name, hlast, (Config.takes_iff_of_standard rfl name).1 htaken⟩,
      fun other hother hmem => hkept other hother ((hleft other).2 hmem)⟩
  · rintro ⟨⟨hfile, name, hlast, htaken⟩, hkept⟩
    exact ⟨hfile, ⟨name, hlast, (Config.takes_iff_of_standard rfl name).2 htaken⟩, nofun,
      fun other hother hmem => hkept other hother ((hleft other).1 hmem)⟩

/-- What the standard configuration discovers is what such a file does, apart from what is below the directories
that are left out. -/
theorem exists_discovered_twice {fs : FileSystem} {dir : Path} {entries : List (String × FileTree)}
    (hwell : (FileTree.directory entries).WellNamed) (hdir : fs.find dir = .ok (.directory entries)) :
    ∃ found : List (List String), discoverSuites fs dir c = .ok (found.map dir.below) ∧
      discoverSuites fs dir .standard = .ok ((found.filter keptByStandard).map dir.below) ∧
      (∀ names, names ∈ found ↔ c.Wants (.directory entries) names) ∧ Path.Ascending found := by
  obtain ⟨found, hfound, hwants, hsorted⟩ := exists_discovered hwell hdir hc.readable
  obtain ⟨kept, hkept, hwants', hsorted'⟩ := exists_discovered hwell hdir Config.readable_standard
  -- Both lists are in order, so that their members settle them.
  obtain rfl : kept = found.filter keptByStandard := by
    refine hsorted'.eq_of_mem_iff (hsorted.filter _) fun names => ?_
    rw [List.mem_filter, hwants, hwants', wants_standard_iff hc]
  exact ⟨found, hfound, hkept, hwants, hsorted⟩

end

/-- A configuration file that mentions no field about discovery. The same directory is searched with it as without
a file. With it, all suite files below the directory are found; without a file, only those over no directory with
one of the names that the standard configuration leaves out. So both find the same if and only if no suite file is
below such a directory. -/
theorem unmentioned_law (fs : FileSystem) (hfs : fs.root.WellNamed) (dir : Path)
    (entries : List (String × FileTree)) (hdir : fs.find dir = .ok (.directory entries)) (text : String)
    (c : Config) (hparse : Config.parse text = .ok c)
    (hnone : ∀ name ∈ Config.searchFields, ¬ Config.Mentions text name) :
    (∀ place, c.searchDir dir place = dir ∧ Config.standard.searchDir dir place = dir) ∧
    ∃ found : List (List String), discoverSuites fs dir c = .ok (found.map dir.below) ∧
      discoverSuites fs dir .standard = .ok ((found.filter keptByStandard).map dir.below) ∧
      (∀ names, names ∈ found ↔ (∃ content, FileTree.lookup names (.directory entries) = some (.file content)) ∧
        ∃ name ∈ names.getLast?, ∃ ending ∈ standardEndings, ending.toList <:+ name.toList) ∧
      (discoverSuites fs dir c = discoverSuites fs dir .standard ↔
        ∀ names ∈ found, ∀ name ∈ names.dropLast, name ∉ Config.standard.exclude) := by
  have hc := Config.searchesAs_blank_of_parse hparse hnone
  obtain ⟨place, -, hplace⟩ := (FileSystem.find_eq_ok_iff fs).1 hdir
  obtain ⟨found, hfound, hkept, hwants, -⟩ := exists_discovered_twice hc (hfs.lookup hplace).2 hdir
  constructor
  · intro place
    constructor
    · rw [Config.searchDir, hc.root]
      rfl
    · rfl
  refine ⟨found, hfound, hkept, ?_, ?_⟩
  · intro names
    rw [hwants, hc.wants_iff]
  · rw [hfound, hkept]
    simp only [← keptByStandard_iff]
    rw [← map_filter_eq_map_iff]
    exact ⟨fun heq => (Except.ok.inj heq).symm, fun heq => congrArg Except.ok heq.symm⟩

/-- A file that only says which server is tested: a suite file in a directory for build results is found with it,
and is not found without it. -/
theorem unmentioned_law_server :
    let text := "base_url: http://h\nhost: localhost\nport_env: API_PORT\ntimeout_secs: 5\n"
    let suite : FileTree := .file (Text.Encoded.ofString "tests: []\n")
    let entries := [("api", .directory [("todos.apicheck.yaml", suite)]),
      ("target", .directory [("smoke.apicheck.yaml", suite)])]
    let fs : FileSystem := ⟨.directory entries, []⟩
    ∃ c files, Config.parse text = .ok c ∧ discoverSuites fs ⟨"."⟩ c = .ok files ∧
      ⟨"./target/smoke.apicheck.yaml"⟩ ∈ files ∧ discoverSuites fs ⟨"."⟩ .standard ≠ .ok files := by
  intro text suite entries fs
  have hfs : fs.root.WellNamed := by
    simp only [fs, entries, suite, FileTree.wellNamed_cons_iff, FileTree.wellNamed_nil_iff,
      FileTree.wellNamed_file_iff]
    decide +kernel
  have hparse : Config.parse text = .ok { Config.blank with
      baseUrl := some "http://h", serviceVariable := "API_PORT", timeout := some 5 } :=
    eq_ok_of_toOption (by decide +kernel)
  have hnone : ∀ name ∈ Config.searchFields, ¬ Config.Mentions text name := by
    have hfields : ∀ name ∈ Config.searchFields, name ∉ ["base_url", "host", "port_env", "timeout_secs"] := by
      decide +kernel
    exact fun name hname => Config.not_mentions (by decide +kernel) (hfields name hname)
  obtain ⟨-, found, hfound, -, hwants, hsame⟩ :=
    unmentioned_law fs hfs ⟨"."⟩ entries rfl text _ hparse hnone
  have hsmoke : ["target", "smoke.apicheck.yaml"] ∈ found :=
    (hwants _).2 ⟨⟨_, rfl⟩, _, rfl, ".apicheck.yaml", by decide +kernel⟩
  refine ⟨_, _, hparse, hfound, List.mem_map.2 ⟨_, hsmoke, by decide +kernel⟩, ?_⟩
  intro heq
  exact hsame.1 (hfound.trans heq.symm) _ hsmoke "target" (by decide) (by decide)

/-- Saying nothing about discovery is not the same as having no file: the names that are left out without one
are not. -/
theorem standard_exclude_lost :
    let text := "host: localhost\n"
    let suite : FileTree := .file (Text.Encoded.ofString "tests: []\n")
    let entries := [("api", .directory [("todos.apicheck.yaml", suite)]),
      ("target", .directory [("smoke.apicheck.yaml", suite)])]
    let fs : FileSystem := ⟨.directory entries, []⟩
    Config.parse text = .ok .blank ∧ (∀ name ∈ Config.searchFields, ¬ Config.Mentions text name) ∧
      discoverSuites fs ⟨"."⟩ .blank ≠ discoverSuites fs ⟨"."⟩ .standard := by
  intro text suite entries fs
  have hwell : (FileTree.directory entries).WellNamed := by
    simp only [entries, suite, FileTree.wellNamed_cons_iff, FileTree.wellNamed_nil_iff, FileTree.wellNamed_file_iff]
    decide +kernel
  refine ⟨eq_ok_of_toOption (by decide +kernel), ?_, ?_⟩
  · have hfields : ∀ name ∈ Config.searchFields, name ∉ ["host"] := by decide +kernel
    exact fun name hname => Config.not_mentions (by decide +kernel) (hfields name hname)
  · obtain ⟨found, hfound, hkept, hwants, -⟩ := exists_discovered_twice (c := .blank) ⟨rfl, rfl, rfl, rfl⟩ hwell
      (show fs.find ⟨"."⟩ = _ from rfl)
    have hsmoke : ["target", "smoke.apicheck.yaml"] ∈ found :=
      (hwants _).2 (Config.SearchesAs.wants_iff ⟨rfl, rfl, rfl, rfl⟩ |>.2
        ⟨⟨_, rfl⟩, _, rfl, ".apicheck.yaml", by decide +kernel⟩)
    rw [hfound, hkept]
    intro heq
    have hall := map_filter_eq_map_iff.1 (Except.ok.inj heq).symm
    exact absurd (hall _ hsmoke) (by decide +kernel)

end Probe
