import Mathlib.Algebra.BigOperators.Group.List.Basic
import Probe.Discovery

/-!
# Spellings of a pattern

A pattern with groups in braces stands for several spellings. They are made from the left, by beginnings that
grow with each group; what they are is said from the right, by what the rest of the pattern stands for. Main
statements:

* `firstGroup?_eq_some_iff`, `firstGroup?_eq_none_iff`: where the first group of a pattern is.
* `Expands.spell_eq`: the spellings after some beginnings.
* `Expands.length_eq`: how many spellings there are.
* `Expands.length_rounds_le`: how many rounds it takes to make them.
* `spelling_law`: the spellings of any pattern.
-/

namespace Probe

open Probe.Text

/-- What a pattern stands for: its spellings in order, and the sizes of its groups. Without an opening brace, or
without a closing brace behind the first opening one, a pattern stands for itself. Otherwise each part between
these braces is followed by each spelling of the rest. -/
inductive Expands : (pattern : List Char) → (sizes : List Nat) → (spellings : List (List Char)) → Prop where
  | literal {pattern : List Char}
      (h : ∀ head tail, pattern = head ++ '\x7b' :: tail → '\x7b' ∉ head → '\x7d' ∉ tail) :
      Expands pattern [] [pattern]
  | group {head inner rest : List Char} {parts spellings : List (List Char)} {sizes : List Nat}
      (hhead : '\x7b' ∉ head) (hinner : '\x7d' ∉ inner) (hparts : IsCut ',' inner parts)
      (hrest : Expands rest sizes spellings) :
      Expands (head ++ '\x7b' :: (inner ++ '\x7d' :: rest)) (parts.length :: sizes)
        (parts.flatMap fun part => spellings.map fun spelling => head ++ part ++ spelling)

/-- The first group of a pattern is between its first opening brace and the next closing one. -/
theorem firstGroup?_eq_some_iff {pattern head rest : List Char} {parts : List (List Char)} :
    firstGroup? pattern = some (head, parts, rest) ↔
      ∃ inner, pattern = head ++ '\x7b' :: (inner ++ '\x7d' :: rest) ∧ '\x7b' ∉ head ∧ '\x7d' ∉ inner ∧
        IsCut ',' inner parts := by
  simp only [firstGroup?, Option.bind_eq_bind, Option.bind_eq_some_iff, isCut_iff]
  constructor
  · rintro ⟨⟨head', tail⟩, hopen, ⟨inner, rest'⟩, hclose, heq⟩
    obtain ⟨rfl, hhead⟩ := cutFirst_eq_some_iff.1 hopen
    obtain ⟨rfl, hinner⟩ := cutFirst_eq_some_iff.1 hclose
    cases heq
    exact ⟨inner, rfl, hhead, hinner, rfl⟩
  · rintro ⟨inner, rfl, hhead, hinner, rfl⟩
    exact ⟨_, cutFirst_append _ hhead, _, cutFirst_append _ hinner, rfl⟩

theorem firstGroup?_append {head inner : List Char} {parts : List (List Char)} (rest : List Char)
    (hhead : '\x7b' ∉ head) (hinner : '\x7d' ∉ inner) (hparts : IsCut ',' inner parts) :
    firstGroup? (head ++ '\x7b' :: (inner ++ '\x7d' :: rest)) = some (head, parts, rest) :=
  firstGroup?_eq_some_iff.2 ⟨inner, rfl, hhead, hinner, hparts⟩

theorem firstGroup?_eq_none_iff {pattern : List Char} :
    firstGroup? pattern = none ↔
      ∀ head tail, pattern = head ++ '\x7b' :: tail → '\x7b' ∉ head → '\x7d' ∉ tail := by
  constructor
  · rintro h head tail rfl hhead
    rw [← cutFirst_eq_none_iff]
    cases hclose : cutFirst '\x7d' tail with
    | none => rfl
    | some parts => simp [firstGroup?, cutFirst_append _ hhead, hclose] at h
  · intro h
    cases hopen : cutFirst '\x7b' pattern with
    | none => simp [firstGroup?, hopen]
    | some parts =>
        obtain ⟨hpattern, hhead⟩ := cutFirst_eq_some_iff.1 hopen
        have hclose := cutFirst_eq_none_iff.2 (h _ _ hpattern hhead)
        simp [firstGroup?, hopen, hclose]

/-- A round of spelling a pattern out leaves the rest behind its first group. -/
def RoundLeaves (pattern rest : List Char) : Prop :=
  ∃ head parts, firstGroup? pattern = some (head, parts, rest)

namespace Expands

variable {pattern : List Char} {sizes : List Nat} {spellings : List (List Char)}

/-- Every pattern stands for something. -/
theorem exists_expands (pattern : List Char) : ∃ sizes spellings, Expands pattern sizes spellings := by
  induction hn : pattern.length using Nat.strongRecOn generalizing pattern with
  | ind n ih =>
      cases hgroup : firstGroup? pattern with
      | none => exact ⟨[], [pattern], .literal (firstGroup?_eq_none_iff.1 hgroup)⟩
      | some found =>
          obtain ⟨head, parts, rest⟩ := found
          have hshorter : rest.length < n := hn ▸ length_firstGroup? _ _ _ _ hgroup
          obtain ⟨sizes, spellings, hrest⟩ := ih rest.length hshorter rest rfl
          obtain ⟨inner, rfl, hhead, hinner, hparts⟩ := firstGroup?_eq_some_iff.1 hgroup
          exact ⟨_, _, .group hhead hinner hparts hrest⟩

/-- The spellings after some beginnings are those of the pattern behind each of them. -/
theorem spell_eq (h : Expands pattern sizes spellings) (starts : List (List Char)) :
    spell starts pattern = starts.flatMap fun start => spellings.map fun spelling => start ++ spelling := by
  induction h generalizing starts with
  | literal h =>
      rw [spell_of_no_group (firstGroup?_eq_none_iff.2 h)]
      exact List.map_eq_flatMap
  | @group head inner rest parts spellings sizes hhead hinner hparts hrest ih =>
      rw [spell_of_group (firstGroup?_append rest hhead hinner hparts), ih]
      simp only [List.flatMap_assoc, List.flatMap_map, List.map_flatMap, List.map_map, Function.comp_def,
        List.append_assoc]

/-- There are as many spellings as ways to choose a part of each group. -/
theorem length_eq (h : Expands pattern sizes spellings) : spellings.length = sizes.prod := by
  induction h with
  | literal => rfl
  | @group head inner rest parts spellings sizes hhead hinner hparts hrest ih =>
      simp [List.length_flatMap, ih]

/-- No more rounds follow each other than there are groups. -/
theorem length_rounds_le (h : Expands pattern sizes spellings) {rests : List (List Char)}
    (hrounds : (pattern :: rests).IsChain RoundLeaves) : rests.length ≤ sizes.length := by
  induction h generalizing rests with
  | literal h =>
      cases hrounds with
      | singleton => exact Nat.le_refl 0
      | cons_cons hleaves _ =>
          obtain ⟨head, parts, hgroup⟩ := hleaves
          rw [firstGroup?_eq_none_iff.2 h] at hgroup
          cases hgroup
  | @group head inner rest parts spellings sizes hhead hinner hparts hrest ih =>
      cases hrounds with
      | singleton => exact Nat.zero_le _
      | cons_cons hleaves hmore =>
          obtain ⟨head', parts', hgroup⟩ := hleaves
          rw [firstGroup?_append rest hhead hinner hparts] at hgroup
          cases hgroup
          exact Nat.succ_le_succ (ih hmore)

end Expands

/-- The spellings of any pattern are what it stands for, in the same order: an opening brace that is not closed
stays as it is, and of each group every part is followed by all that the rest stands for. There are as many as the
product of the sizes of the groups, and making them takes no more rounds than there are groups. -/
theorem spelling_law (pattern : String) :
    (∃ sizes spellings, Expands pattern.toList sizes spellings) ∧
    ∀ sizes spellings, Expands pattern.toList sizes spellings →
      alternatives pattern = spellings.map String.ofList ∧
      (alternatives pattern).length = sizes.prod ∧
      ∀ rests, (pattern.toList :: rests).IsChain RoundLeaves → rests.length ≤ sizes.length := by
  refine ⟨Expands.exists_expands pattern.toList, fun sizes spellings h => ?_⟩
  have hspell : spell [[]] pattern.toList = spellings := by
    rw [h.spell_eq]
    simp
  have halternatives : alternatives pattern = spellings.map String.ofList := by rw [alternatives, hspell]
  refine ⟨halternatives, ?_, fun rests => h.length_rounds_le⟩
  rw [halternatives, List.length_map, h.length_eq]

/-- Empty parts count, and a brace that is opened twice is a character of a part. -/
example : alternatives "\x7b\x7ba,\x7dx,\x7b,b\x7d\x7b" = ["\x7bax,\x7b", "\x7bax,b\x7b", "x,\x7b", "x,b\x7b"] := by
  decide +kernel

end Probe
