import Probe.Store

/-!
# Writes

Variables that are written one after the other. Of several writes to a variable the last one counts,
and a variable that is not written keeps its value. Main statements:

* `get?_insertAll`: the value of a variable after writes.
* `overwritten_insertAll`: what holds after writes of texts that are not empty.
-/

namespace Probe

/-- Writes in order: the name of a variable and its value each. -/
abbrev Writes := List (String × String)

/-- The value that the last write to a variable gives it, if there is one. -/
def Writes.last? (writes : Writes) (name : String) : Option String :=
  (writes.reverse.find? fun w => w.1 = name).map Prod.snd

/-- How writes to some variables, the targets, lead from the variables `old` to the variables `new`. -/
structure Overwritten (target : String → Prop) (writes : Writes) (old new : Store) : Prop where
  eq : new = old.insertAll writes
  /-- Of several writes to a variable the last one counts. -/
  last : ∀ name, new.get? name = (writes.last? name).or (old.get? name)
  /-- A variable that is no target keeps its value. -/
  untouched : ∀ name, ¬ target name → new.get? name = old.get? name
  /-- No variable is removed. -/
  kept : ∀ name, (old.get? name).isSome → (new.get? name).isSome
  /-- Nothing empty is written, -/
  nonempty : ∀ w ∈ writes, w.2 ≠ ""
  /-- so that only what was empty is empty. -/
  filled : ∀ name, new.get? name = some "" → old.get? name = some ""

namespace Writes

theorem last?_cons (w : String × String) (writes : Writes) (name : String) :
    last? (w :: writes) name = (writes.last? name).or (if w.1 = name then some w.2 else none) := by
  unfold last?
  rw [List.reverse_cons, List.find?_append, List.find?_singleton]
  cases writes.reverse.find? fun w => decide (w.1 = name) with
  | some v => rfl
  | none =>
      by_cases h : w.1 = name
      · simp [h]
      · simp [h]

theorem mem_of_last? {writes : Writes} {name value : String} (h : writes.last? name = some value) :
    (name, value) ∈ writes := by
  obtain ⟨w, hw, rfl⟩ := Option.map_eq_some_iff.1 h
  have hname : w.1 = name := by simpa using List.find?_some hw
  have hmem : w ∈ writes := List.mem_reverse.1 (List.mem_of_find?_eq_some hw)
  rwa [← hname]

/-- There is no last write to a variable exactly if nothing is written to it. -/
theorem last?_eq_none_iff {writes : Writes} {name : String} :
    writes.last? name = none ↔ name ∉ writes.map Prod.fst := by
  unfold last?
  rw [Option.map_eq_none_iff, List.find?_eq_none]
  constructor
  · intro h hname
    obtain ⟨w, hw, rfl⟩ := List.mem_map.1 hname
    exact h w (List.mem_reverse.2 hw) (decide_eq_true rfl)
  · intro h w hw heq
    exact h (List.mem_map.2 ⟨w, List.mem_reverse.1 hw, of_decide_eq_true heq⟩)

/-- Of variables that are written once each, every one has what is written to it. -/
theorem last?_of_nodup {writes : Writes} {name value : String} (hnodup : (writes.map Prod.fst).Nodup)
    (h : (name, value) ∈ writes) : writes.last? name = some value := by
  induction writes with
  | nil => cases h
  | cons w rest ih =>
      obtain ⟨hw, hrest⟩ := List.nodup_cons.1 hnodup
      rw [last?_cons]
      rcases List.mem_cons.1 h with rfl | h
      · rw [last?_eq_none_iff.2 hw, Option.none_or, if_pos rfl]
      · rw [ih hrest h, Option.some_or]

end Writes

namespace Store

theorem insertAll_append (store : Store) (a b : Writes) :
    store.insertAll (a ++ b) = (store.insertAll a).insertAll b := by
  simp [Table.insertAll, List.foldl_append]

/-- After writes a variable has the value of the last write to it, or the one that it had. -/
theorem get?_insertAll (store : Store) (writes : Writes) (name : String) :
    (store.insertAll writes).get? name = (writes.last? name).or (store.get? name) := by
  induction writes generalizing store with
  | nil => rfl
  | cons w rest ih =>
      have hrest : (store.insertAll (w :: rest)).get? name =
          ((store.insert w.1 w.2).insertAll rest).get? name := rfl
      rw [hrest, ih, Writes.last?_cons, Table.get?_insert, Option.or_assoc]
      by_cases h : w.1 = name
      · simp [h]
      · simp [h, Ne.symm h]

/-- Writing the same once more changes nothing. -/
theorem insertAll_twice (store : Store) (writes : Writes) :
    (store.insertAll writes).insertAll writes = store.insertAll writes := by
  apply Table.ext_get?
  intro name
  rw [get?_insertAll, get?_insertAll, ← Option.or_assoc, Option.or_self]

theorem overwritten_insertAll {target : String → Prop} (old : Store) (writes : Writes)
    (h : ∀ w ∈ writes, target w.1 ∧ w.2 ≠ "") :
    Overwritten target writes old (old.insertAll writes) := by
  have hlast := fun name => get?_insertAll old writes name
  refine ⟨rfl, hlast, ?_, ?_, fun w hw => (h w hw).2, ?_⟩
  · intro name hname
    cases hw : writes.last? name with
    | none => rw [hlast, hw, Option.none_or]
    | some value => exact absurd (h _ (Writes.mem_of_last? hw)).1 hname
  · intro name hsome
    rw [hlast, Option.isSome_or, hsome, Bool.or_true]
  · intro name hempty
    rw [hlast] at hempty
    cases hw : writes.last? name with
    | none => rwa [hw, Option.none_or] at hempty
    | some value =>
        rw [hw, Option.some_or, Option.some.injEq] at hempty
        exact absurd hempty (h _ (Writes.mem_of_last? hw)).2

end Store

end Probe
