/-!
# Cutting and joining texts

Cutting a text at a separator, joining segments again, taking off its end, and looking for a text
inside another. Main statements: `join_cut`, `isCut_iff`, `dropEnd_append_takeEnd`.
-/

namespace Probe.Text

/-- Cuts a text at every occurrence of the separator; there is always at least one segment. -/
def cut (sep : Char) : List Char → List (List Char)
  | [] => [[]]
  | c :: rest =>
      match cut sep rest with
      | [] => [[c]]
      | w :: ws => if c = sep then [] :: w :: ws else (c :: w) :: ws

/-- Puts segments together with one separator between neighbours. -/
def join (sep : Char) : List (List Char) → List Char
  | [] => []
  | [w] => w
  | w :: v :: ws => w ++ sep :: join sep (v :: ws)

/-- The parts before and after the first occurrence of the separator. -/
def cutFirst (sep : Char) : List Char → Option (List Char × List Char)
  | [] => none
  | c :: rest =>
      if c = sep then some ([], rest)
      else (cutFirst sep rest).map fun (before, after) => (c :: before, after)

/-- The rest of a text that starts with `lead`. -/
def dropLead? : List Char → List Char → Option (List Char)
  | [], s => some s
  | _ :: _, [] => none
  | a :: lead, c :: s => if a = c then dropLead? lead s else none

/-- The text after the first occurrence of `mark`, if it occurs. -/
def after? (mark : List Char) : List Char → Option (List Char)
  | [] => dropLead? mark []
  | c :: rest =>
      match dropLead? mark (c :: rest) with
      | some found => some found
      | none => after? mark rest

/-- Whether `part` occurs in a text. -/
def contains (part s : List Char) : Bool :=
  (after? part s).isSome

theorem cut_ne_nil (sep : Char) (s : List Char) : cut sep s ≠ [] := by
  cases s with
  | nil => simp [cut]
  | cons c rest =>
      simp only [cut]
      split
      · simp
      · split <;> simp

/-- Cutting loses nothing: the segments with the separator between them are the text. -/
theorem join_cut (sep : Char) (s : List Char) : join sep (cut sep s) = s := by
  induction s with
  | nil => rfl
  | cons c rest ih =>
      simp only [cut]
      split
      · next h => exact absurd h (cut_ne_nil sep rest)
      · next w ws h =>
          rw [h] at ih
          by_cases hc : c = sep
          · simp [hc, join, ih]
          · cases ws with
            | nil => simp only [join] at ih; simp [hc, join, ih]
            | cons v vs => simp only [join] at ih; simp [hc, join, ih]

theorem not_mem_of_mem_cut {sep : Char} {s w : List Char} (h : w ∈ cut sep s) : sep ∉ w := by
  induction s generalizing w with
  | nil =>
      obtain rfl : w = [] := by simpa [cut] using h
      exact List.not_mem_nil
  | cons c rest ih =>
      simp only [cut] at h
      split at h
      · next hnil => exact absurd hnil (cut_ne_nil sep rest)
      · next v vs hcut =>
          have hsegments : ∀ u ∈ v :: vs, sep ∉ u := fun u hu => ih (hcut ▸ hu)
          split at h
          · rcases List.mem_cons.1 h with rfl | hmem
            · exact List.not_mem_nil
            · exact hsegments w hmem
          · next hc =>
              rcases List.mem_cons.1 h with rfl | hmem
              · simp [Ne.symm hc, hsegments v List.mem_cons_self]
              · exact hsegments w (List.mem_cons_of_mem v hmem)

theorem cut_of_not_mem {sep : Char} {w : List Char} (h : sep ∉ w) : cut sep w = [w] := by
  induction w with
  | nil => rfl
  | cons c w ih =>
      obtain ⟨hc, hw⟩ := not_or.1 (mt List.mem_cons.2 h)
      simp [cut, ih hw, Ne.symm hc]

/-- Cutting on both sides of a separator. -/
theorem cut_append_cut (sep : Char) (s t : List Char) : cut sep (s ++ sep :: t) = cut sep s ++ cut sep t := by
  induction s with
  | nil =>
      obtain ⟨v, vs, hcut⟩ := List.exists_cons_of_ne_nil (cut_ne_nil sep t)
      simp [cut, hcut]
  | cons c s ih =>
      obtain ⟨v, vs, hcut⟩ := List.exists_cons_of_ne_nil (cut_ne_nil sep s)
      by_cases hc : c = sep <;> simp [cut, ih, hcut, hc]

theorem cut_append {sep : Char} {w : List Char} (s : List Char) (h : sep ∉ w) :
    cut sep (w ++ sep :: s) = w :: cut sep s := by
  rw [cut_append_cut, cut_of_not_mem h]
  rfl

theorem cut_join {sep : Char} {ws : List (List Char)} (hne : ws ≠ []) (h : ∀ w ∈ ws, sep ∉ w) :
    cut sep (join sep ws) = ws := by
  induction ws with
  | nil => exact absurd rfl hne
  | cons w ws ih =>
      obtain ⟨hw, hrest⟩ := List.forall_mem_cons.1 h
      cases ws with
      | nil => exact cut_of_not_mem hw
      | cons v vs => rw [join, cut_append _ hw, ih (List.cons_ne_nil v vs) hrest]

/-- The segments of a text are those that hold no separator and give the text back. -/
structure IsCut (sep : Char) (s : List Char) (ws : List (List Char)) : Prop where
  ne_nil : ws ≠ []
  not_mem : ∀ w ∈ ws, sep ∉ w
  join_eq : join sep ws = s

theorem isCut_iff {sep : Char} {s : List Char} {ws : List (List Char)} :
    IsCut sep s ws ↔ ws = cut sep s := by
  constructor
  · rintro ⟨hne, hsep, rfl⟩
    exact (cut_join hne hsep).symm
  · rintro rfl
    exact ⟨cut_ne_nil sep s, fun _ => not_mem_of_mem_cut, join_cut sep s⟩

theorem cutFirst_append {sep : Char} {before : List Char} (after : List Char) (h : sep ∉ before) :
    cutFirst sep (before ++ sep :: after) = some (before, after) := by
  induction before with
  | nil => exact if_pos rfl
  | cons c before ih =>
      obtain ⟨hc, hbefore⟩ := not_or.1 (mt List.mem_cons.2 h)
      simp [cutFirst, Ne.symm hc, ih hbefore]

/-- The first part is the one that holds no separator. -/
theorem cutFirst_eq_some_iff {sep : Char} {s before after : List Char} :
    cutFirst sep s = some (before, after) ↔ s = before ++ sep :: after ∧ sep ∉ before := by
  constructor
  · intro h
    induction s generalizing before with
    | nil => cases h
    | cons c s ih =>
        rw [cutFirst] at h
        split at h
        · next hc =>
            cases h
            exact ⟨congrArg (· :: after) hc, List.not_mem_nil⟩
        · next hc =>
            obtain ⟨⟨front, rest⟩, hfront, heq⟩ := Option.map_eq_some_iff.1 h
            cases heq
            obtain ⟨rfl, hsep⟩ := ih hfront
            exact ⟨rfl, List.not_mem_cons_of_ne_of_not_mem (Ne.symm hc) hsep⟩
  · rintro ⟨rfl, h⟩
    exact cutFirst_append after h

theorem cutFirst_eq_none_iff {sep : Char} {s : List Char} : cutFirst sep s = none ↔ sep ∉ s := by
  constructor
  · intro h hmem
    obtain ⟨before, after, rfl, hsep⟩ := List.eq_append_cons_of_mem hmem
    rw [cutFirst_append after hsep] at h
    cases h
  · intro h
    cases hcut : cutFirst sep s with
    | none => rfl
    | some parts =>
        obtain ⟨rfl, -⟩ := cutFirst_eq_some_iff.1 hcut
        exact absurd (List.mem_append_right _ List.mem_cons_self) h

/-- Where a text stops to be of a kind, the part of that kind ends. -/
theorem takeWhile_append_of_stop {α : Type} {p : α → Bool} {front back : List α}
    (hfront : ∀ a ∈ front, p a = true) (hback : ∀ a ∈ back.head?, p a = false) :
    (front ++ back).takeWhile p = front ∧ (front ++ back).dropWhile p = back := by
  rw [List.takeWhile_append_of_pos hfront, List.dropWhile_append_of_pos hfront]
  cases back with
  | nil => exact ⟨List.append_nil front, rfl⟩
  | cons a rest =>
      have ha : p a = false := hback a rfl
      simp [ha]

/-- A text is what is left when its end is taken off, followed by that end. -/
theorem dropEnd_append_takeEnd {α : Type} (p : α → Bool) (s : List α) :
    (s.reverse.dropWhile p).reverse ++ (s.reverse.takeWhile p).reverse = s := by
  rw [← List.reverse_append, List.takeWhile_append_dropWhile, List.reverse_reverse]

/-- Of what is taken off an end nothing is left there. -/
theorem getLast?_dropEnd {α : Type} (p : α → Bool) (s : List α) :
    ∀ a ∈ (s.reverse.dropWhile p).reverse.getLast?, p a = false := by
  intro a ha
  have hnot := List.head?_dropWhile_not p s.reverse
  rw [List.getLast?_reverse] at ha
  rw [ha] at hnot
  exact hnot

theorem dropLead?_append (lead s : List Char) : dropLead? lead (lead ++ s) = some s := by
  induction lead with
  | nil => rfl
  | cons c lead ih => simp [dropLead?, ih]

/-- A mark is found at once where its first character comes for the first time. -/
theorem after?_append {a : Char} {before : List Char} (mark rest : List Char) (h : a ∉ before) :
    after? (a :: mark) (before ++ a :: (mark ++ rest)) = some rest := by
  induction before with
  | nil =>
      have hlead : dropLead? (a :: mark) (a :: (mark ++ rest)) = some rest := dropLead?_append (a :: mark) rest
      simp [after?, hlead]
  | cons c before ih =>
      obtain ⟨hc, hbefore⟩ := not_or.1 (mt List.mem_cons.2 h)
      simp [after?, dropLead?, hc, ih hbefore]

/-- A lead that is dropped was there. -/
theorem eq_append_of_dropLead? {lead s rest : List Char} (h : dropLead? lead s = some rest) :
    s = lead ++ rest := by
  induction lead generalizing s with
  | nil => simpa [dropLead?] using h
  | cons a lead ih =>
      cases s with
      | nil => simp [dropLead?] at h
      | cons c s =>
          simp only [dropLead?] at h
          split at h
          · next hc => simp [hc, ih h]
          · simp at h

end Probe.Text
