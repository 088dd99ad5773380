import Mathlib.Data.List.Find
import Probe.Proofs.Run.Turns

/-!
# What a run asks of the statuses

A turn asks of the statuses recorded so far only whether the dependencies of its case have passed. So
statuses that answer this alike lead to the same turn; and as a turn records the same status in both, they
lead to the same run. Main statements:

* `blocker?_congr`: what blocks a case depends only on which of its dependencies have passed.
* `runFrom_congr`: so does a run.
-/

namespace Probe

/-- Two tables of statuses say alike whether the case of an identifier has passed. -/
def PassAlike (a b : Statuses) (id : String) : Prop :=
  a.get? id = some .passed ↔ b.get? id = some .passed

namespace PassAlike

variable {a b : Statuses} {id : String}

theorem refl (a : Statuses) (id : String) : PassAlike a a id := Iff.rfl

theorem of_eq (h : a.get? id = b.get? id) : PassAlike a b id := by
  rw [PassAlike, h]

theorem symm (h : PassAlike a b id) : PassAlike b a id := Iff.symm h

/-- Recording the same status in both keeps them alike. -/
theorem insert (h : PassAlike a b id) (name : String) (status : Status) :
    PassAlike (a.insert name status) (b.insert name status) id := by
  unfold PassAlike
  rw [Table.get?_insert, Table.get?_insert]
  split
  · rfl
  · exact h

/-- As long as a case has not passed, recording another status of it is as good as recording nothing. -/
theorem insert_left (h : PassAlike a b id) {name : String} {status : Status}
    (hname : a.get? name ≠ some .passed) (hstatus : status ≠ .passed) :
    PassAlike (a.insert name status) b id := by
  unfold PassAlike at h ⊢
  rw [Table.get?_insert]
  by_cases hid : id = name
  · have hb : b.get? id ≠ some .passed := fun hb => hname (hid ▸ h.2 hb)
    rw [if_pos hid]
    exact iff_of_false (fun heq => hstatus (Option.some.inj heq)) hb
  · rw [if_neg hid]
    exact h

theorem record (h : PassAlike a b id) (cases : List Case) :
    PassAlike (record a cases) (record b cases) id := by
  induction cases generalizing a b with
  | nil => exact h
  | cons c rest ih => exact ih (h.insert c.id c.status)

end PassAlike

theorem Case.blocker?_congr (c : Case) {a b : Statuses}
    (h : ∀ d ∈ c.dependencies, PassAlike a b d) : c.blocker? a = c.blocker? b := by
  unfold Case.blocker?
  apply List.find?_congr
  intro d hd
  have hd := h d hd
  unfold PassAlike at hd
  rw [Bool.eq_iff_iff, bne_iff_ne, bne_iff_ne, Ne, Ne, hd]

section

variable {σ : Type} (transport : Transport σ) (base : String)

theorem turn_congr (c : Case) {a b : Statuses} (store : Store) (s : σ)
    (h : ∀ d ∈ c.dependencies, PassAlike a b d) :
    turn transport base a c store s = turn transport base b c store s := by
  unfold turn
  rw [c.blocker?_congr h]

/-- A run depends on the statuses it begins with only by which dependencies of its cases have passed. -/
theorem runFrom_congr (cases : List Case) {a b : Statuses} (store : Store) (s : σ)
    (h : ∀ c ∈ cases, ∀ d ∈ c.dependencies, PassAlike a b d) :
    runFrom transport base a cases store s = runFrom transport base b cases store s := by
  induction cases generalizing a b store s with
  | nil => rfl
  | cons c rest ih =>
      have hturn := turn_congr transport base c store s (h c List.mem_cons_self)
      have hrest : ∀ c' ∈ rest, ∀ d ∈ c'.dependencies,
          PassAlike (record a (turn transport base b c store s).cases)
            (record b (turn transport base b c store s).cases) d := by
        intro c' hc' d hd
        exact (h c' (List.mem_cons_of_mem c hc') d hd).record _
      simp only [runFrom, hturn, ih _ _ hrest]

end

end Probe
