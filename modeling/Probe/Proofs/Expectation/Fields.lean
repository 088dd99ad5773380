import Mathlib.Data.List.Induction
import Mathlib.Data.List.Nodup
import Probe.Expectation.Fields

/-!
# Insertions of fields

A field that is inserted keeps its place if its name is there already, and goes to the end if not. So no name
stands twice in a field map, and the names are in the order in which they were first inserted. Main statements:

* `names_insert`: the names after an insertion.
* `Inserted`: what insertions lead to.
* `Inserted.insert`, `inserted_ofList`: one more insertion, and all of them.
-/

namespace Probe.FieldMap

theorem map_fst_put (name : String) (e : Expectation) (entries : List (String × Expectation)) :
    (put name e entries).map Prod.fst =
      if name ∈ entries.map Prod.fst then entries.map Prod.fst else entries.map Prod.fst ++ [name] := by
  induction entries with
  | nil => rfl
  | cons f rest ih =>
      obtain ⟨n, f⟩ := f
      by_cases hn : n = name
      · subst hn
        simp [put]
      · rw [put, if_neg hn, List.map_cons, ih]
        by_cases hrest : name ∈ rest.map Prod.fst
        · have hmem : name ∈ ((n, f) :: rest).map Prod.fst := List.mem_cons_of_mem n hrest
          rw [if_pos hrest, if_pos hmem]
          rfl
        · have hnew : name ∉ ((n, f) :: rest).map Prod.fst := List.not_mem_cons_of_ne_of_not_mem (Ne.symm hn) hrest
          rw [if_neg hrest, if_neg hnew]
          rfl

/-- A name that is there keeps its place, a new one goes to the end. -/
theorem names_insert (fields : FieldMap) (name : String) (e : Expectation) :
    (fields.insert name e).names = if name ∈ fields.names then fields.names else fields.names ++ [name] :=
  map_fst_put name e fields.entries

theorem nodup_names_insert {fields : FieldMap} (h : fields.names.Nodup) (name : String) (e : Expectation) :
    (fields.insert name e).names.Nodup := by
  rw [names_insert]
  split
  · exact h
  · next hnew =>
      rw [← List.concat_eq_append]
      exact h.concat hnew

/-! ## What insertions lead to -/

/-- An expectation is the last one inserted under a name: that name is not inserted again behind it. -/
def IsLast (inserts : List (String × Expectation)) (name : String) (e : Expectation) : Prop :=
  ∃ before after, inserts = before ++ (name, e) :: after ∧ name ∉ after.map Prod.fst

theorem isLast_concat {inserts : List (String × Expectation)} {name other : String} {e e' : Expectation} :
    IsLast (inserts ++ [(name, e)]) other e' ↔ if other = name then e' = e else IsLast inserts other e' := by
  constructor
  · rintro ⟨before, after, hsplit, hafter⟩
    rcases List.eq_nil_or_concat after with rfl | ⟨after, f, rfl⟩
    · obtain ⟨-, hlast⟩ := List.append_inj' hsplit rfl
      cases hlast
      rw [if_pos rfl]
    · rw [List.concat_eq_append] at hsplit hafter
      rw [← List.cons_append, ← List.append_assoc] at hsplit
      obtain ⟨rfl, hlast⟩ := List.append_inj' hsplit rfl
      cases hlast
      rw [List.map_append, List.mem_append, not_or] at hafter
      have hne : other ≠ name := fun heq => hafter.2 (List.mem_singleton.2 heq)
      rw [if_neg hne]
      exact ⟨before, after, rfl, hafter.1⟩
  · intro h
    split at h
    · next heq => exact ⟨inserts, [], by rw [heq, h], List.not_mem_nil⟩
    · next hne =>
        obtain ⟨before, after, rfl, hafter⟩ := h
        refine ⟨before, after ++ [(name, e)], by rw [List.append_assoc, List.cons_append], ?_⟩
        rw [List.map_append, List.mem_append, not_or]
        exact ⟨hafter, fun hmem => hne (List.mem_singleton.1 hmem)⟩

/-- The fields that insertions lead to. -/
structure Inserted (inserts : List (String × Expectation)) (fields : FieldMap) : Prop where
  /-- No name stands twice, -/
  nodup : fields.names.Nodup
  /-- the names are those that were inserted, -/
  mem_names : ∀ name, name ∈ fields.names ↔ name ∈ inserts.map Prod.fst
  /-- and they are in the order in which they were first inserted. -/
  ordered : fields.names.Pairwise fun a b => (inserts.map Prod.fst).idxOf a < (inserts.map Prod.fst).idxOf b
  /-- A name has the expectation that was inserted last under it, -/
  last : ∀ name e, fields.get? name = some e ↔ IsLast inserts name e
  /-- or none if it was never inserted, -/
  absent : ∀ name, fields.get? name = none ↔ name ∉ inserts.map Prod.fst
  /-- and is listed with that expectation. -/
  listed : ∀ name e, (name, e) ∈ fields.entries ↔ fields.get? name = some e

theorem get?_eq_some_iff {fields : FieldMap} (hnodup : fields.names.Nodup) {name : String} {e : Expectation} :
    fields.get? name = some e ↔ (name, e) ∈ fields.entries :=
  ⟨Entries.mem_of_get?, Entries.get?_of_mem hnodup⟩

theorem inserted_empty : Inserted [] empty where
  nodup := List.nodup_nil
  mem_names _ := Iff.rfl
  ordered := List.Pairwise.nil
  last _ _ := iff_of_false nofun fun ⟨_, _, h, _⟩ => absurd h (by simp)
  absent _ := iff_of_true rfl List.not_mem_nil
  listed _ _ := iff_of_false List.not_mem_nil nofun

namespace Inserted

variable {inserts : List (String × Expectation)} {fields : FieldMap} (h : Inserted inserts fields)

include h

/-- Names that were inserted keep the place where that was done first, and a new name comes behind them. -/
theorem ordered_insert (name : String) (e : Expectation) :
    (fields.insert name e).names.Pairwise fun a b =>
      ((inserts ++ [(name, e)]).map Prod.fst).idxOf a < ((inserts ++ [(name, e)]).map Prod.fst).idxOf b := by
  rw [List.map_append, List.map_singleton]
  have hkept : ∀ a ∈ fields.names,
      (inserts.map Prod.fst ++ [name]).idxOf a = (inserts.map Prod.fst).idxOf a := by
    intro a ha
    rw [List.idxOf_append, if_pos ((h.mem_names a).1 ha)]
  have hold : fields.names.Pairwise fun a b =>
      (inserts.map Prod.fst ++ [name]).idxOf a < (inserts.map Prod.fst ++ [name]).idxOf b :=
    h.ordered.imp_of_mem fun ha hb hlt => by rwa [hkept _ ha, hkept _ hb]
  rw [names_insert]
  split
  · exact hold
  · next hnew =>
      refine List.pairwise_append.2 ⟨hold, List.pairwise_singleton _ _, fun a ha b hb => ?_⟩
      obtain rfl := List.mem_singleton.1 hb
      have hlt := List.idxOf_lt_length_iff.2 ((h.mem_names a).1 ha)
      rw [hkept a ha, List.idxOf_append, if_neg (mt (h.mem_names b).2 hnew)]
      omega

/-- One more insertion. -/
theorem insert (name : String) (e : Expectation) :
    Inserted (inserts ++ [(name, e)]) (fields.insert name e) := by
  have hnodup := nodup_names_insert h.nodup name e
  have hnames : ∀ other, other ∈ (fields.insert name e).names ↔ other ∈ (inserts ++ [(name, e)]).map Prod.fst := by
    intro other
    rw [names_insert, List.map_append, List.mem_append, ← h.mem_names]
    -- A name that is there already adds nothing.
    split
    · next hmem => exact ⟨.inl, fun h => h.elim id fun heq => List.mem_singleton.1 heq ▸ hmem⟩
    · exact List.mem_append
  refine ⟨hnodup, hnames, h.ordered_insert name e, fun other e' => ?_, fun other => ?_, fun other e' => ?_⟩
  · rw [get?_insert, isLast_concat]
    split
    · rw [Option.some_inj, eq_comm]
    · exact h.last other e'
  · rw [get?, Entries.get?_eq_none_iff]
    exact not_congr (hnames other)
  · exact (get?_eq_some_iff hnodup).symm

end Inserted

theorem ofList_concat (inserts : List (String × Expectation)) (name : String) (e : Expectation) :
    ofList (inserts ++ [(name, e)]) = (ofList inserts).insert name e := by
  rw [ofList, List.foldl_append]
  rfl

/-- However many fields are inserted, one after the other. -/
theorem inserted_ofList (inserts : List (String × Expectation)) : Inserted inserts (ofList inserts) := by
  induction inserts using List.reverseRecOn with
  | nil => exact inserted_empty
  | append_singleton inserts f ih =>
      rw [ofList_concat]
      exact ih.insert f.1 f.2

theorem nodup_names_ofList (inserts : List (String × Expectation)) : (ofList inserts).names.Nodup :=
  (inserted_ofList inserts).nodup

end Probe.FieldMap
