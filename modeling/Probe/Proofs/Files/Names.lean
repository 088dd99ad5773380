import Mathlib.Data.List.Basic
import Probe.Files.Path

/-!
# Names below a directory

An entry of a directory has a name that is one segment of a path. The path of what is below a directory is the
path of the directory with one component more for each name on the way, however the path of the directory is
spelled; so these paths are told apart by the names, and ordered as the names are. Main statements:

* `components_below`: the components of a path below a directory.
* `le_trans`, `le_total`: the order of paths.
* `le_below_iff`: the order of the paths below a directory.
* `Ascending.below`, `ascending_of_below`: lists of names in order, and the paths they lead to.
-/

namespace Probe.Path

open Probe.Text

/-- A text that can name an entry of a directory: it is one segment of a path, and counts as a name. -/
structure IsName (name : String) : Prop where
  slash_notMem : '/' ∉ name.toList
  ne_empty : name ≠ ""
  ne_dot : name ≠ "."
  ne_dots : name ≠ ".."

instance : DecidablePred IsName := fun name =>
  decidable_of_iff ('/' ∉ name.toList ∧ name ≠ "" ∧ name ≠ "." ∧ name ≠ "..")
    ⟨fun ⟨slash, empty, dot, dots⟩ => ⟨slash, empty, dot, dots⟩, fun ⟨slash, empty, dot, dots⟩ =>
      ⟨slash, empty, dot, dots⟩⟩

/-- The path that leads from a directory on along some names. -/
def below (dir : Path) (names : List String) : Path :=
  names.foldl (fun p name => p.join ⟨name⟩) dir

/-- The text of a path without a slash at its end. -/
def stem (p : Path) : List Char :=
  if p.text.toList.getLast? = some '/' then p.text.toList.dropLast else p.text.toList

theorem IsName.isIdle {name : String} (h : IsName name) : isIdle name = false := by
  simp [Path.isIdle, h.ne_empty, h.ne_dot]

theorem IsName.componentOf {name : String} (h : IsName name) : componentOf name = .name name := by
  rw [Path.componentOf, if_neg h.ne_dot, if_neg h.ne_dots]

theorem IsName.isAbsolute {name : String} (h : IsName name) : isAbsolute ⟨name⟩ = false := by
  rw [Path.isAbsolute, beq_eq_false_iff_ne]
  intro hhead
  exact h.slash_notMem (List.mem_of_head? hhead)

/-! ## Joining a name -/

theorem toList_eq_stem (p : Path) : p.text.toList = p.stem ∨ p.text.toList = p.stem ++ ['/'] := by
  rw [stem]
  split
  · next hlast =>
      right
      rw [List.dropLast_append_getLast? '/' hlast]
  · left
    rfl

theorem segments_eq_stem (p : Path) :
    p.segments = (cut '/' p.stem).map String.ofList ∨
      p.segments = (cut '/' p.stem).map String.ofList ++ [""] := by
  rcases toList_eq_stem p with h | h
  · left
    rw [segments, h]
  · right
    rw [segments, h, cut_append_cut, List.map_append]
    rfl

section

variable {p : Path} (hp : p.text ≠ "") {name : String} (hname : IsName name)

include hp

theorem toList_ne_nil : p.text.toList ≠ [] := fun h => hp (String.toList_eq_nil_iff.1 h)

include hname

theorem toList_join : (p.join ⟨name⟩).text.toList = p.stem ++ '/' :: name.toList := by
  rw [join, hname.isAbsolute, Bool.false_or, decide_eq_false hp, if_neg Bool.false_ne_true, stem]
  by_cases hlast : p.text.toList.getLast? = some '/'
  · have hfront := List.dropLast_append_getLast? '/' hlast
    rw [if_pos (beq_iff_eq.2 hlast), if_pos hlast, String.toList_append, ← hfront]
    simp
  · rw [if_neg (mt beq_iff_eq.1 hlast), if_neg hlast]
    simp [String.toList_append]

theorem text_join_ne_empty : (p.join ⟨name⟩).text ≠ "" := by
  intro h
  have hchars := toList_join hp hname
  rw [h] at hchars
  simp at hchars

theorem isAbsolute_join : (p.join ⟨name⟩).isAbsolute = p.isAbsolute := by
  rw [isAbsolute, isAbsolute, toList_join hp hname]
  rcases hstem : p.stem with _ | ⟨c, rest⟩
  · -- Only the root has nothing before its last slash.
    rcases toList_eq_stem p with h | h
    · exact absurd (h.trans hstem) (toList_ne_nil hp)
    · rw [h, hstem]
      rfl
  · rcases toList_eq_stem p with h | h
    · rw [h, hstem]
      rfl
    · rw [h, hstem]
      rfl

theorem segments_join :
    (p.join ⟨name⟩).segments = (cut '/' p.stem).map String.ofList ++ [name] := by
  rw [segments, toList_join hp hname, cut_append_cut, cut_of_not_mem hname.slash_notMem, List.map_append]
  simp

/-- A name adds a component to a path. -/
theorem components_join : (p.join ⟨name⟩).components = p.components ++ [.name name] := by
  obtain ⟨first, rest, hcut⟩ : ∃ first rest, (cut '/' p.stem).map String.ofList = first :: rest :=
    List.exists_cons_of_ne_nil (mt List.map_eq_nil_iff.1 (cut_ne_nil _ _))
  have hjoin := segments_join hp hname
  rw [hcut, List.cons_append] at hjoin
  -- A slash at the end of the path adds an empty segment, which does not count.
  have hinner : ∃ more, p.segments = first :: more ∧
      more.filter (fun s => !Path.isIdle s) = rest.filter fun s => !Path.isIdle s := by
    rcases segments_eq_stem p with h | h
    · exact ⟨rest, by rw [h, hcut], rfl⟩
    · exact ⟨rest ++ [""], by rw [h, hcut]; rfl, by simp [Path.isIdle]⟩
  obtain ⟨more, hsegments, hmore⟩ := hinner
  simp only [components, hjoin, hsegments, isAbsolute_join hp hname, List.filter_append, hmore, List.map_append]
  have hlast : ([name].filter fun s => !Path.isIdle s).map Path.componentOf = [.name name] := by
    simp [hname.isIdle, hname.componentOf]
  rw [hlast]
  split
  · split <;> rfl
  · rfl

end

/-! ## Paths below a directory -/

section

variable {dir : Path} (hdir : dir.text ≠ "")

include hdir

theorem components_below {names : List String} (hnames : ∀ name ∈ names, IsName name) :
    (dir.below names).components = dir.components ++ names.map .name := by
  induction names generalizing dir with
  | nil => exact (List.append_nil _).symm
  | cons name names ih =>
      obtain ⟨hname, hrest⟩ := List.forall_mem_cons.1 hnames
      have hbelow : dir.below (name :: names) = (dir.join ⟨name⟩).below names := rfl
      rw [hbelow, ih (text_join_ne_empty hdir hname) hrest, components_join hdir hname, List.append_assoc]
      rfl

/-- Different names lead to different paths. -/
theorem below_injective {a b : List String} (ha : ∀ name ∈ a, IsName name) (hb : ∀ name ∈ b, IsName name)
    (h : dir.below a = dir.below b) : a = b := by
  have hcomponents := congrArg components h
  rw [components_below hdir ha, components_below hdir hb, List.append_cancel_left_eq] at hcomponents
  exact List.map_injective_iff.2 (fun _ _ => Component.name.inj) hcomponents

end

/-! ## Order -/

theorem Component.le_total (a b : Component) : (a.le b || b.le a) = true := by
  cases a <;> cases b <;> simp [Component.le, String.le_total]

theorem Component.le_trans {a b c : Component} (hab : a.le b = true) (hbc : b.le c = true) :
    a.le c = true := by
  cases a <;> cases b <;> cases c <;> simp_all [Component.le]
  exact String.le_trans hab hbc

theorem Component.le_antisymm {a b : Component} (hab : a.le b = true) (hba : b.le a = true) : a = b := by
  cases a <;> cases b <;> simp_all [Component.le]
  exact String.le_antisymm hab hba

theorem leComponents_cons (a b : Component) (as bs : List Component) :
    leComponents (a :: as) (b :: bs) = true ↔
      (a = b ∧ leComponents as bs = true) ∨ (a ≠ b ∧ a.le b = true) := by
  by_cases h : a = b <;> simp [leComponents, h]

theorem leComponents_total (as bs : List Component) :
    (leComponents as bs || leComponents bs as) = true := by
  induction as generalizing bs with
  | nil => rfl
  | cons a as ih =>
      cases bs with
      | nil => rfl
      | cons b bs =>
          rw [Bool.or_eq_true, leComponents_cons, leComponents_cons]
          -- Equal components leave it to the rest, different ones are in order themselves.
          by_cases h : a = b
          · rcases Bool.or_eq_true_iff.1 (ih bs) with hle | hle
            · exact .inl (.inl ⟨h, hle⟩)
            · exact .inr (.inl ⟨h.symm, hle⟩)
          · rcases Bool.or_eq_true_iff.1 (Component.le_total a b) with hle | hle
            · exact .inl (.inr ⟨h, hle⟩)
            · exact .inr (.inr ⟨Ne.symm h, hle⟩)

theorem leComponents_trans {as bs cs : List Component} (hab : leComponents as bs = true)
    (hbc : leComponents bs cs = true) : leComponents as cs = true := by
  induction as generalizing bs cs with
  | nil => rfl
  | cons a as ih =>
      rcases bs with _ | ⟨b, bs⟩
      · cases hab
      rcases cs with _ | ⟨c, cs⟩
      · cases hbc
      rw [leComponents_cons] at hab hbc ⊢
      rcases hab with ⟨rfl, hab⟩ | ⟨hne, hab⟩
      · rcases hbc with ⟨rfl, hbc⟩ | ⟨hne', hbc⟩
        · exact .inl ⟨rfl, ih hab hbc⟩
        · exact .inr ⟨hne', hbc⟩
      · rcases hbc with ⟨rfl, -⟩ | ⟨hne', hbc⟩
        · exact .inr ⟨hne, hab⟩
        · refine .inr ⟨?_, Component.le_trans hab hbc⟩
          rintro rfl
          exact hne (Component.le_antisymm hab hbc)

theorem le_total (a b : Path) : (a.le b || b.le a) = true :=
  leComponents_total _ _

theorem le_trans (a b c : Path) (hab : a.le b = true) (hbc : b.le c = true) : a.le c = true :=
  leComponents_trans hab hbc

theorem leComponents_append (cs as bs : List Component) :
    leComponents (cs ++ as) (cs ++ bs) = leComponents as bs := by
  induction cs with
  | nil => rfl
  | cons c cs ih => simp [leComponents, ih]

theorem leComponents_names_iff (a b : List String) :
    leComponents (a.map .name) (b.map .name) = true ↔ a = b ∨ List.Lex (· < ·) a b := by
  induction a generalizing b with
  | nil => cases b <;> simp [leComponents]
  | cons x a ih =>
      cases b with
      | nil => simp [leComponents]
      | cons y b =>
          have hhead : (Component.name x).le (.name y) = true ↔ x ≤ y := decide_eq_true_iff
          rw [List.map_cons, List.map_cons, leComponents_cons, ih, List.cons_lex_cons_iff, Component.name.injEq,
            hhead]
          constructor
          · rintro (⟨rfl, rfl | hlex⟩ | ⟨hne, hle⟩)
            · exact .inl rfl
            · exact .inr (.inr ⟨rfl, hlex⟩)
            · have hlt : ¬ y ≤ x := fun hge => hne (congrArg _ (String.le_antisymm hle hge))
              exact .inr (.inl (String.not_le.1 hlt))
          · rintro (heq | hlt | ⟨rfl, hlex⟩)
            · cases heq
              exact .inl ⟨rfl, .inl rfl⟩
            · refine .inr ⟨?_, String.not_lt.1 (String.lt_asymm hlt)⟩
              intro heq
              exact String.lt_irrefl y (Component.name.inj heq ▸ hlt)
            · exact .inl ⟨rfl, .inr hlex⟩

/-- Below a directory, paths are ordered by the names on the way, one after the other. -/
theorem le_below_iff {dir : Path} (hdir : dir.text ≠ "") {a b : List String}
    (ha : ∀ name ∈ a, IsName name) (hb : ∀ name ∈ b, IsName name) :
    (dir.below a).le (dir.below b) = true ↔ a = b ∨ List.Lex (· < ·) a b := by
  rw [le, components_below hdir ha, components_below hdir hb, leComponents_append, leComponents_names_iff]

-- By its components a directory comes right before what is in it; by its text it would not.
example : (Path.mk "t/a/z").le ⟨"t/a.z"⟩ = true ∧ "t/a.z" < "t/a/z" := by decide +kernel

/-! ## Names in order -/

/-- Each list of names comes before the next ones: the first name in which they differ decides. -/
def Ascending (found : List (List String)) : Prop :=
  found.Pairwise (List.Lex (· < ·))

theorem Ascending.nodup {found : List (List String)} (h : Ascending found) : found.Nodup := by
  refine h.imp fun {a b} hlt heq => ?_
  exact List.lex_irrefl String.lt_irrefl b (heq ▸ hlt)

theorem Ascending.filter {found : List (List String)} (p : List String → Bool) (h : Ascending found) :
    Ascending (found.filter p) :=
  h.sublist List.filter_sublist

/-- Names in order are determined by which they are. -/
theorem Ascending.eq_of_mem_iff {a b : List (List String)} (ha : Ascending a) (hb : Ascending b)
    (h : ∀ names, names ∈ a ↔ names ∈ b) : a = b := by
  refine List.Perm.eq_of_pairwise ?_ ha hb ((List.perm_ext_iff_of_nodup ha.nodup hb.nodup).2 h)
  intro x y _ _ hxy hyx
  exact absurd hyx (List.lex_asymm (fun hlt => String.lt_asymm hlt) hxy)

/-- Names in order lead to paths in order, all of them different. -/
theorem Ascending.below {dir : Path} (hdir : dir.text ≠ "") {found : List (List String)} (h : Ascending found)
    (hnames : ∀ names ∈ found, ∀ name ∈ names, IsName name) :
    (found.map dir.below).Nodup ∧ (found.map dir.below).Pairwise fun a b => a.le b = true := by
  constructor
  · refine List.pairwise_map.2 (List.Pairwise.imp_of_mem (fun {a b} ha hb hlt heq => ?_) h)
    obtain rfl := below_injective hdir (hnames a ha) (hnames b hb) heq
    exact List.lex_irrefl String.lt_irrefl a hlt
  · refine List.pairwise_map.2 (List.Pairwise.imp_of_mem (fun {a b} ha hb hlt => ?_) h)
    exact (le_below_iff hdir (hnames a ha) (hnames b hb)).2 (.inr hlt)

/-- Names whose paths are in order and all different are in order. -/
theorem ascending_of_below {dir : Path} (hdir : dir.text ≠ "") {found : List (List String)}
    (hnames : ∀ names ∈ found, ∀ name ∈ names, IsName name) (hnodup : (found.map dir.below).Nodup)
    (hsorted : (found.map dir.below).Pairwise fun a b => a.le b = true) : Ascending found := by
  have hboth := (List.pairwise_map.1 hsorted).and (List.pairwise_map.1 hnodup)
  refine hboth.imp_of_mem fun {a b} ha hb h => ?_
  rcases (le_below_iff hdir (hnames a ha) (hnames b hb)).1 h.1 with rfl | hlt
  · exact absurd rfl h.2
  · exact hlt

end Probe.Path
