import Probe.Files.Tree
import Probe.Proofs.Files.Names

/-!
# Paths into trees

A tree has names for what is in its directories, and gives no name twice. A path that leads to a directory leads on
along the names below it, and by names alone it is settled where. Main statements:

* `FileTree.WellNamed.lookup`: what is below names is well-named, and so are the names.
* `find_join`, `find_below`: where the paths below a directory lead.
* `find_absolute`, `parent?_absolute`: where the path of all names from the root leads, and its directory.
-/

namespace Probe

namespace FileTree

/-- The entries of every directory have names, none of them twice. -/
inductive WellNamed : FileTree → Prop where
  | file (content : Text.Encoded) : WellNamed (.file content)
  | directory {entries : List (String × FileTree)} (hnames : ∀ e ∈ entries, Path.IsName e.1)
      (hnodup : (entries.map Prod.fst).Nodup) (hinner : ∀ e ∈ entries, WellNamed e.2) :
      WellNamed (.directory entries)

theorem wellNamed_file_iff {content : Text.Encoded} : (FileTree.file content).WellNamed ↔ True :=
  iff_true_intro (.file content)

theorem wellNamed_nil_iff : (FileTree.directory []).WellNamed ↔ True :=
  iff_true_intro (.directory nofun List.nodup_nil nofun)

theorem wellNamed_cons_iff {e : String × FileTree} {entries : List (String × FileTree)} :
    (FileTree.directory (e :: entries)).WellNamed ↔
      Path.IsName e.1 ∧ e.2.WellNamed ∧ e.1 ∉ entries.map Prod.fst ∧ (FileTree.directory entries).WellNamed := by
  constructor
  · intro h
    cases h with
    | directory hnames hnodup hinner =>
        obtain ⟨hname, hnames⟩ := List.forall_mem_cons.1 hnames
        obtain ⟨hfirst, hinner⟩ := List.forall_mem_cons.1 hinner
        obtain ⟨hnot, hnodup⟩ := List.nodup_cons.1 hnodup
        exact ⟨hname, hfirst, hnot, .directory hnames hnodup hinner⟩
  · rintro ⟨hname, hfirst, hnot, h⟩
    cases h with
    | directory hnames hnodup hinner =>
        exact .directory (List.forall_mem_cons.2 ⟨hname, hnames⟩) (List.nodup_cons.2 ⟨hnot, hnodup⟩)
          (List.forall_mem_cons.2 ⟨hfirst, hinner⟩)

theorem WellNamed.entry? {t u : FileTree} {name : String} (h : t.WellNamed) (hu : t.entry? name = some u) :
    Path.IsName name ∧ u.WellNamed := by
  cases h with
  | file content => cases hu
  | directory hnames hnodup hinner =>
      have hmem := Entries.mem_of_get? hu
      exact ⟨hnames _ hmem, hinner _ hmem⟩

/-- Names that lead anywhere are names, and what they lead to is well-named. -/
theorem WellNamed.lookup {t u : FileTree} {names : List String} (h : t.WellNamed)
    (hu : t.lookup names = some u) : (∀ name ∈ names, Path.IsName name) ∧ u.WellNamed := by
  induction names generalizing t with
  | nil =>
      cases hu
      exact ⟨fun _ hmem => absurd hmem List.not_mem_nil, h⟩
  | cons name names ih =>
      obtain ⟨v, hv, hrest⟩ := Option.bind_eq_some_iff.1 hu
      obtain ⟨hname, hinner⟩ := h.entry? hv
      obtain ⟨hnames, hwell⟩ := ih hinner hrest
      exact ⟨List.forall_mem_cons.2 ⟨hname, hnames⟩, hwell⟩

theorem lookup_concat {root t u : FileTree} {place : List String} {name : String}
    (ht : root.lookup place = some t) (hu : t.entry? name = some u) :
    root.lookup (place ++ [name]) = some u := by
  rw [lookup_append, ht]
  exact (Option.bind_some _ _).trans (by rw [lookup, hu]; rfl)

theorem isDirectory_of_entry? {t u : FileTree} {name : String} (h : t.entry? name = some u) :
    t.isDirectory = true := by
  cases t with
  | file content => cases h
  | directory entries => rfl

end FileTree

namespace FileSystem

variable (fs : FileSystem)

theorem walk_append (place a b : List String) :
    fs.walk place (a ++ b) = (fs.walk place a).bind fun q => fs.walk q b := by
  induction a generalizing place with
  | nil => rfl
  | cons s a ih =>
      simp only [List.cons_append, walk]
      cases fs.root.lookup place with
      | none => rfl
      | some t =>
          simp only
          split
          · rfl
          split
          · exact ih place
          split
          · exact ih _
          split
          · exact ih _
          · rfl

/-- A name leads into the directory. -/
theorem walk_name {place : List String} {t u : FileTree} {name : String} (hname : Path.IsName name)
    (ht : fs.root.lookup place = some t) (hu : t.entry? name = some u) :
    fs.walk place [name] = .ok (place ++ [name]) := by
  have hdir := FileTree.isDirectory_of_entry? hu
  simp [walk, ht, hdir, hname.isIdle, hname.ne_dots, hu]

/-- An empty segment at the end leads nowhere else. -/
theorem walk_of_walk_empty {place q : List String} {a : List String}
    (h : fs.walk place (a ++ [""]) = .ok q) : fs.walk place a = .ok q := by
  rw [walk_append] at h
  cases ha : fs.walk place a with
  | error e => simp [ha, Except.bind] at h
  | ok r =>
      simp only [ha, Except.bind, walk] at h
      split at h
      · cases h
      split at h
      · cases h
      · exact h

/-- The place where a path starts. -/
def startOf (p : Path) : List String :=
  if p.isAbsolute then [] else fs.workingDirectory

/-- The segments of a path that lead on from its start. -/
def stepsOf (p : Path) : List String :=
  if p.isAbsolute then p.segments.drop 1 else p.segments

theorem resolve_eq {p : Path} (hp : p.text ≠ "") : fs.resolve p = fs.walk (fs.startOf p) (stepsOf p) := by
  rw [resolve, if_neg hp, startOf, stepsOf]
  split <;> rfl

theorem find_eq_ok_iff {p : Path} {t : FileTree} :
    fs.find p = .ok t ↔ ∃ names, fs.resolve p = .ok names ∧ fs.root.lookup names = some t := by
  simp only [find, bind, Except.bind]
  cases hp : fs.resolve p with
  | error e => simp
  | ok names =>
      cases hnames : fs.root.lookup names with
      | none => simp [hnames]
      | some u => simp [hnames]

theorem text_ne_empty_of_find {p : Path} {t : FileTree} (h : fs.find p = .ok t) : p.text ≠ "" := by
  intro hp
  obtain ⟨names, hnames, -⟩ := (find_eq_ok_iff fs).1 h
  rw [resolve, if_pos hp] at hnames
  cases hnames

/-- A path with a name of an entry leads to this entry. -/
theorem find_join {dir : Path} {t u : FileTree} {name : String} (hname : Path.IsName name)
    (ht : fs.find dir = .ok t) (hu : t.entry? name = some u) : fs.find (dir.join ⟨name⟩) = .ok u := by
  have hdir := text_ne_empty_of_find fs ht
  obtain ⟨place, hplace, hlookup⟩ := (find_eq_ok_iff fs).1 ht
  rw [resolve_eq fs hdir] at hplace
  refine (find_eq_ok_iff fs).2 ⟨place ++ [name], ?_, ?_⟩
  · -- The steps of the directory, without an empty one at the end, and then the name.
    obtain ⟨steps, hjoin, hsteps⟩ : ∃ steps, stepsOf (dir.join ⟨name⟩) = steps ++ [name] ∧
        (stepsOf dir = steps ∨ stepsOf dir = steps ++ [""]) := by
      have hcut : (Text.cut '/' dir.stem).map String.ofList ≠ [] :=
        mt List.map_eq_nil_iff.1 (Text.cut_ne_nil _ _)
      obtain ⟨first, rest, hrest⟩ := List.exists_cons_of_ne_nil hcut
      have hsegments := Path.segments_eq_stem dir
      rw [stepsOf, stepsOf, Path.isAbsolute_join hdir hname, Path.segments_join hdir hname]
      rw [hrest] at hsegments ⊢
      split
      · refine ⟨rest, rfl, ?_⟩
        rcases hsegments with h | h
        · exact .inl (by rw [h]; rfl)
        · exact .inr (by rw [h]; rfl)
      · exact ⟨first :: rest, rfl, hsegments⟩
    have hwalk : fs.walk (fs.startOf dir) steps = .ok place := by
      rcases hsteps with h | h
      · rw [← h]
        exact hplace
      · rw [h] at hplace
        exact walk_of_walk_empty fs hplace
    have hstart : fs.startOf (dir.join ⟨name⟩) = fs.startOf dir := by
      rw [startOf, startOf, Path.isAbsolute_join hdir hname]
    rw [resolve_eq fs (Path.text_join_ne_empty hdir hname), hjoin, hstart, walk_append, hwalk]
    exact walk_name fs hname hlookup hu
  · exact FileTree.lookup_concat hlookup hu

/-- A path below a directory leads to what its names lead to. -/
theorem find_below {dir : Path} {t u : FileTree} {names : List String} (hwell : t.WellNamed)
    (ht : fs.find dir = .ok t) (hu : t.lookup names = some u) : fs.find (dir.below names) = .ok u := by
  induction names generalizing dir t with
  | nil =>
      cases hu
      exact ht
  | cons name names ih =>
      -- The first name is joined to the path, and the others lead on from there.
      obtain ⟨v, hv, hrest⟩ := Option.bind_eq_some_iff.1 hu
      obtain ⟨hname, hinner⟩ := hwell.entry? hv
      exact ih hinner (find_join fs hname ht hv) hrest

/-! ## Absolute paths -/

theorem toList_intercalate_slash (names : List String) :
    (String.intercalate "/" names).toList = Text.join '/' (names.map String.toList) := by
  induction names with
  | nil => rfl
  | cons name rest ih =>
      cases rest with
      | nil => simp [Text.join]
      | cons next rest =>
          rw [String.intercalate_cons_cons, String.toList_append, String.toList_append, ih]
          simp [Text.join]

theorem segments_absolute {names : List String} (hne : names ≠ []) (hnames : ∀ name ∈ names, Path.IsName name) :
    (absolute names).segments = "" :: names := by
  have htext : (absolute names).text.toList = [] ++ '/' :: Text.join '/' (names.map String.toList) := by
    rw [absolute, String.toList_append, toList_intercalate_slash]
    rfl
  have hparts : ∀ w ∈ names.map String.toList, '/' ∉ w := by
    intro w hw
    obtain ⟨name, hname, rfl⟩ := List.mem_map.1 hw
    exact (hnames name hname).slash_notMem
  rw [Path.segments, htext, Text.cut_append _ List.not_mem_nil,
    Text.cut_join (mt List.map_eq_nil_iff.1 hne) hparts, List.map_cons, List.map_map]
  simp

theorem walk_names {place names : List String} {t u : FileTree} (hwell : t.WellNamed)
    (ht : fs.root.lookup place = some t) (hu : t.lookup names = some u) :
    fs.walk place names = .ok (place ++ names) := by
  induction names generalizing place t with
  | nil => rw [walk, List.append_nil]
  | cons name names ih =>
      obtain ⟨v, hv, hrest⟩ := Option.bind_eq_some_iff.1 hu
      obtain ⟨hname, hinner⟩ := hwell.entry? hv
      calc fs.walk place (name :: names)
          = (fs.walk place [name]).bind fun q => fs.walk q names := walk_append fs place [name] names
        _ = fs.walk (place ++ [name]) names := by rw [walk_name fs hname ht hv]; rfl
        _ = .ok (place ++ name :: names) := by rw [ih hinner (FileTree.lookup_concat ht hv) hrest, List.append_assoc]; rfl

/-- The absolute path of the names of an entry leads to the entry. -/
theorem find_absolute {names : List String} {t : FileTree} (hwell : fs.root.WellNamed) (hne : names ≠ [])
    (ht : fs.root.lookup names = some t) : fs.find (absolute names) = .ok t := by
  refine (find_eq_ok_iff fs).2 ⟨names, ?_, ht⟩
  have htext : (absolute names).text.toList = '/' :: (String.intercalate "/" names).toList := by
    rw [absolute, String.toList_append]
    rfl
  have habsolute : (absolute names).isAbsolute = true := by
    rw [Path.isAbsolute, htext]
    rfl
  have hempty : (absolute names).text ≠ "" := by
    intro h
    rw [h] at htext
    cases htext
  rw [resolve_eq fs hempty, startOf, stepsOf, if_pos habsolute, if_pos habsolute,
    segments_absolute hne (hwell.lookup ht).1]
  exact walk_names fs hwell rfl ht

theorem dropIdle_names {names : List String} (hnames : ∀ name ∈ names, Path.IsName name) :
    Path.dropIdle names = names := by
  rcases List.eq_nil_or_concat names with rfl | ⟨init, last, rfl⟩
  · rfl
  · have hlast : Path.isIdle last = false := (hnames last (by simp)).isIdle
    simp [Path.dropIdle, hlast]

/-- The parent of a path of names is that of the names but the last one. -/
theorem parent?_absolute {names : List String} {last : String}
    (hnames : ∀ name ∈ names ++ [last], Path.IsName name) :
    (absolute (names ++ [last])).parent? = some (absolute names) := by
  have hdir : ∀ name ∈ names, Path.IsName name := fun name hname => hnames name (List.mem_append_left _ hname)
  have hne : names ++ [last] ≠ [] := by simp
  rw [Path.parent?, segments_absolute hne hnames]
  simp only [dropIdle_names hnames, List.dropLast_concat, dropIdle_names hdir]
  cases names with
  | nil => rfl
  | cons name rest => simp [absolute, String.intercalate_cons_cons]

end FileSystem

end Probe
