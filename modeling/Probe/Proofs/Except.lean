import Mathlib.Data.List.Forall2

/-!
# Steps that may fail

What succeeds step by step has succeeded in each of its steps. Main statements:

* `exists_of_bind_eq_ok`: the first step of two.
* `mapM_eq_ok_iff`: one step for each element of a list.
* `mapM_eq_error_iff`: the first of these steps that fails.
* `exists_mem_of_mapM_iff`: where a result of a list comes from.
-/

namespace Probe

theorem exists_of_bind_eq_ok {ε α β : Type} {x : Except ε α} {f : α → Except ε β} {b : β}
    (h : x >>= f = .ok b) : ∃ a, x = .ok a ∧ f a = .ok b := by
  cases x with
  | error e => cases h
  | ok a => exact ⟨a, rfl, h⟩

/-- A result that can be taken out is that result. -/
theorem eq_ok_of_toOption {ε α : Type} {result : Except ε α} {a : α} (h : result.toOption = some a) :
    result = .ok a := by
  cases result with
  | error e => cases h
  | ok b => rw [Option.some.inj h]

theorem exists_of_toOption_eq_none {ε α : Type} {result : Except ε α} (h : result.toOption = none) :
    ∃ e, result = .error e := by
  cases result with
  | error e => exact ⟨e, rfl⟩
  | ok a => cases h

theorem mapError_eq_ok_iff {ε δ α : Type} {x : Except ε α} {wrap : ε → δ} {a : α} :
    x.mapError wrap = .ok a ↔ x = .ok a := by
  cases x with
  | error e => exact iff_of_false nofun nofun
  | ok b => simp only [Except.mapError, Except.ok.injEq]

section

variable {ε α β : Type} {f : α → Except ε β}

/-- Going through a list succeeds exactly if it does for each element. -/
theorem mapM_eq_ok_iff (f : α → Except ε β) (xs : List α) (ys : List β) :
    xs.mapM f = .ok ys ↔ List.Forall₂ (fun x y => f x = .ok y) xs ys := by
  induction xs generalizing ys with
  | nil =>
      rw [List.forall₂_nil_left_iff]
      exact ⟨fun h => (Except.ok.inj h).symm, fun h => congrArg Except.ok h.symm⟩
  | cons x rest ih =>
      rw [List.mapM_cons]
      constructor
      · intro h
        obtain ⟨y, hy, h⟩ := exists_of_bind_eq_ok h
        obtain ⟨more, hmore, h⟩ := exists_of_bind_eq_ok h
        cases h
        exact .cons hy ((ih more).1 hmore)
      · rintro (_ | ⟨hy, hmore⟩)
        rw [hy, (ih _).2 hmore]
        rfl

theorem exists_of_mapM_eq_ok {xs : List α} {ys : List β} (h : xs.mapM f = .ok ys) : ∀ x ∈ xs, ∃ y, f x = .ok y := by
  have hparts := (mapM_eq_ok_iff f xs ys).1 h
  clear h
  induction hparts with
  | nil => exact nofun
  | @cons _ y _ _ hxy _ ih => exact List.forall_mem_cons.2 ⟨⟨y, hxy⟩, ih⟩

theorem exists_mapM_eq_ok {xs : List α} (h : ∀ x ∈ xs, ∃ y, f x = .ok y) : ∃ ys, xs.mapM f = .ok ys := by
  induction xs with
  | nil => exact ⟨[], rfl⟩
  | cons x xs ih =>
      obtain ⟨⟨y, hy⟩, hrest⟩ := List.forall_mem_cons.1 h
      obtain ⟨ys, hys⟩ := ih hrest
      exact ⟨y :: ys, (mapM_eq_ok_iff f _ _).2 (.cons hy ((mapM_eq_ok_iff f _ _).1 hys))⟩

/-- Going through a list fails with the first element that fails. -/
theorem mapM_eq_error_iff (f : α → Except ε β) (xs : List α) (e : ε) :
    xs.mapM f = .error e ↔
      ∃ before x after, xs = before ++ x :: after ∧ (∀ b ∈ before, ∃ y, f b = .ok y) ∧ f x = .error e := by
  constructor
  · intro h
    induction xs with
    | nil => cases h
    | cons x rest ih =>
        rw [List.mapM_cons] at h
        cases hx : f x with
        | error e' =>
            rw [hx] at h
            cases h
            exact ⟨[], x, rest, rfl, nofun, hx⟩
        | ok y =>
            cases hrest : rest.mapM f with
            | ok more =>
                rw [hx, hrest] at h
                cases h
            | error e' =>
                rw [hx, hrest] at h
                cases h
                obtain ⟨before, b, after, rfl, hbefore, hb⟩ := ih hrest
                exact ⟨x :: before, b, after, rfl, List.forall_mem_cons.2 ⟨⟨y, hx⟩, hbefore⟩, hb⟩
  · rintro ⟨before, x, after, rfl, hbefore, hx⟩
    obtain ⟨ys, hys⟩ := exists_mapM_eq_ok hbefore
    rw [List.mapM_append, hys, List.mapM_cons, hx]
    rfl

/-- The results of a list are those of its elements. -/
theorem exists_mem_of_mapM_iff {xs : List α} {ys : List β} (p : β → Prop) (h : xs.mapM f = .ok ys) :
    (∃ y ∈ ys, p y) ↔ ∃ x ∈ xs, ∃ y, f x = .ok y ∧ p y := by
  have hparts := (mapM_eq_ok_iff f xs ys).1 h
  clear h
  induction hparts with
  | nil => simp
  | cons hxy _ ih => simp [ih, hxy]

end

end Probe
