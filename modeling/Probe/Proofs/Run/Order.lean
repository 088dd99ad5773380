import Probe.Run.Order

/-!
# Orders that are accepted

A list of cases is accepted exactly when its identifiers are distinct and every dependency is the
identifier of an earlier case. Main statement: `validate_eq_ok_iff`.
-/

namespace Probe.Order

/-- Cases that can be run after cases of the identifiers `seen`. -/
structure WellOrdered (seen : List String) (cases : List Case) : Prop where
  nodup : (cases.map Case.id).Nodup
  fresh : ∀ c ∈ cases, c.id ∉ seen
  backward : ∀ before c after, cases = before ++ c :: after →
    ∀ d ∈ c.dependencies, d ∈ seen ∨ d ∈ before.map Case.id

theorem wellOrdered_nil (seen : List String) : WellOrdered seen [] where
  nodup := List.nodup_nil
  fresh := by intro c hc; cases hc
  backward := by intro before c after h; simp at h

theorem wellOrdered_cons_iff (seen : List String) (c : Case) (rest : List Case) :
    WellOrdered seen (c :: rest) ↔
      (∀ d ∈ c.dependencies, d ∈ seen) ∧ c.id ∉ seen ∧ WellOrdered (c.id :: seen) rest := by
  constructor
  · rintro ⟨hnodup, hfresh, hback⟩
    obtain ⟨hc, hrest⟩ := List.nodup_cons.1 hnodup
    refine ⟨?_, hfresh c List.mem_cons_self, hrest, ?_, ?_⟩
    · intro d hd
      simpa using hback [] c rest rfl d hd
    · intro b hb hmem
      rcases List.mem_cons.1 hmem with heq | hmem
      · exact hc (heq ▸ List.mem_map_of_mem hb)
      · exact hfresh b (List.mem_cons_of_mem c hb) hmem
    · intro before b after heq d hd
      rcases hback (c :: before) b after (by rw [heq]; rfl) d hd with h | h
      · exact .inl (List.mem_cons_of_mem c.id h)
      · rcases List.mem_cons.1 h with rfl | h
        · exact .inl List.mem_cons_self
        · exact .inr h
  · rintro ⟨hdeps, hc, hnodup, hfresh, hback⟩
    refine ⟨?_, ?_, ?_⟩
    · rw [List.map_cons, List.nodup_cons]
      refine ⟨?_, hnodup⟩
      intro hmem
      obtain ⟨b, hb, hid⟩ := List.mem_map.1 hmem
      exact hfresh b hb (hid ▸ List.mem_cons_self)
    · intro b hb
      rcases List.mem_cons.1 hb with rfl | hb
      · exact hc
      · intro hmem
        exact hfresh b hb (List.mem_cons_of_mem c.id hmem)
    · intro before b after heq d hd
      cases before with
      | nil =>
          obtain ⟨rfl, -⟩ := List.cons.inj heq
          exact .inl (hdeps d hd)
      | cons b' before =>
          obtain ⟨rfl, hsplit⟩ := List.cons.inj heq
          rcases hback before b after hsplit d hd with h | h
          · rcases List.mem_cons.1 h with rfl | h
            · exact .inr List.mem_cons_self
            · exact .inl h
          · exact .inr (List.mem_cons_of_mem c.id h)

theorem checkCase_eq_ok_iff (seen : List String) (c : Case) :
    checkCase seen c = .ok () ↔ (∀ d ∈ c.dependencies, d ∈ seen) ∧ c.id ∉ seen := by
  unfold checkCase
  cases hd : c.dependencies.find? fun d => !seen.contains d with
  | some d =>
      have hnot : d ∉ seen := by simpa using List.find?_some hd
      constructor
      · intro h; cases h
      · intro h
        exact absurd (h.1 d (List.mem_of_find?_eq_some hd)) hnot
  | none =>
      have hall : ∀ d ∈ c.dependencies, d ∈ seen := by simpa using hd
      by_cases hc : c.id ∈ seen
      · simp [hc]
      · simpa [hc] using hall

/-- Cases are accepted exactly when they are in an order in which they can be run. -/
theorem validateAfter_eq_ok_iff (seen : List String) (cases : List Case) :
    validateAfter seen cases = .ok () ↔ WellOrdered seen cases := by
  induction cases generalizing seen with
  | nil => simp [validateAfter, wellOrdered_nil]
  | cons c rest ih =>
      rw [wellOrdered_cons_iff, ← ih, ← and_assoc, ← checkCase_eq_ok_iff]
      simp only [validateAfter]
      cases checkCase seen c with
      | error e => simp
      | ok u => simp

theorem validate_eq_ok_iff (cases : List Case) : validate cases = .ok () ↔ WellOrdered [] cases :=
  validateAfter_eq_ok_iff [] cases

end Probe.Order
