import Probe.Text.Segments

/-!
# Blanks

The characters of the Unicode property `White_Space`, and texts with the blanks at their ends
taken off. Main statements: `not_isBlank_head_trimStart`, `isTrim_iff`, `trim_eq_self`,
`isBlank_of_isWhitespace`, `exists_eq_dropTrailing_append`.
-/

namespace Probe.Text

/-- A character of the Unicode property `White_Space`. -/
def isBlank (c : Char) : Bool :=
  let n := c.toNat
  (9 ≤ n && n ≤ 13) || n == 0x20 || n == 0x85 || n == 0xA0 || n == 0x1680 ||
    (0x2000 ≤ n && n ≤ 0x200A) || n == 0x2028 || n == 0x2029 || n == 0x202F ||
    n == 0x205F || n == 0x3000

/-- The text from its first non-blank character on. -/
def trimStart (s : List Char) : List Char :=
  s.dropWhile isBlank

/-- The text up to its last non-blank character. -/
def trimEnd (s : List Char) : List Char :=
  (s.reverse.dropWhile isBlank).reverse

/-- The text between its first and its last non-blank character. -/
def trim (s : List Char) : List Char :=
  trimEnd (trimStart s)

/-- Takes every copy of `c` off the end of a text. -/
def dropTrailing (c : Char) (s : List Char) : List Char :=
  (s.reverse.dropWhile (· == c)).reverse

/-- Core's whitespace characters are all blanks. -/
theorem isBlank_of_isWhitespace (c : Char) (h : c.isWhitespace = true) : isBlank c = true := by
  simp only [Char.isWhitespace, Bool.or_eq_true, decide_eq_true_eq] at h
  rcases h with ((h | h) | h) | h <;> subst h <;> decide

/-- What is left after the blanks in front are gone starts with no blank. -/
theorem not_isBlank_head_trimStart (s : List Char) (c : Char) (r : List Char)
    (h : trimStart s = c :: r) : isBlank c = false := by
  have hnot := List.head?_dropWhile_not isBlank s
  rw [trimStart] at h
  rw [h] at hnot
  exact hnot

/-- What is left of a text without the blanks around it: there are blanks in front of it and behind it only,
and it has none at its own ends. -/
structure IsTrim (s core : List Char) : Prop where
  padded : ∃ front back, s = front ++ core ++ back ∧ (∀ c ∈ front, isBlank c = true) ∧
    ∀ c ∈ back, isBlank c = true
  head : ∀ c ∈ core.head?, isBlank c = false
  last : ∀ c ∈ core.getLast?, isBlank c = false

theorem trimStart_append {front s : List Char} (hfront : ∀ c ∈ front, isBlank c = true)
    (hs : ∀ c ∈ s.head?, isBlank c = false) : trimStart (front ++ s) = s :=
  (takeWhile_append_of_stop hfront hs).2

theorem trimEnd_append {s back : List Char} (hs : ∀ c ∈ s.getLast?, isBlank c = false)
    (hback : ∀ c ∈ back, isBlank c = true) : trimEnd (s ++ back) = s := by
  have hreverse : ∀ c ∈ back.reverse, isBlank c = true := by
    intro c hc
    exact hback c (List.mem_reverse.1 hc)
  have hstop : ∀ c ∈ s.reverse.head?, isBlank c = false := by
    rw [List.head?_reverse]
    exact hs
  rw [trimEnd, List.reverse_append, (takeWhile_append_of_stop hreverse hstop).2, List.reverse_reverse]

/-- Taking the blanks off both ends leaves what is between them. -/
theorem isTrim_iff {s core : List Char} : IsTrim s core ↔ core = trim s := by
  constructor
  · rintro ⟨⟨front, back, rfl, hfront, hback⟩, hhead, hlast⟩
    cases core with
    | nil =>
        -- Nothing but blanks: all of them are in front of the end.
        have hblank : ∀ c ∈ front ++ back, isBlank c = true := List.forall_mem_append.2 ⟨hfront, hback⟩
        have hstart : trimStart (front ++ back ++ []) = [] := trimStart_append hblank nofun
        rw [List.append_nil] at hstart
        rw [List.append_nil, trim, hstart]
        rfl
    | cons c core =>
        have hstart : trimStart (front ++ (c :: core ++ back)) = c :: core ++ back := trimStart_append hfront hhead
        rw [trim, List.append_assoc, hstart, trimEnd_append hlast hback]
  · rintro rfl
    have hfront : s.takeWhile isBlank ++ trimStart s = s := List.takeWhile_append_dropWhile
    have hback : trim s ++ ((trimStart s).reverse.takeWhile isBlank).reverse = trimStart s :=
      dropEnd_append_takeEnd isBlank (trimStart s)
    refine ⟨⟨s.takeWhile isBlank, ((trimStart s).reverse.takeWhile isBlank).reverse, ?_, ?_, ?_⟩, ?_, ?_⟩
    · rw [List.append_assoc, hback, hfront]
    · intro c hc
      exact List.all_eq_true.1 List.all_takeWhile c hc
    · intro c hc
      exact List.all_eq_true.1 List.all_takeWhile c (List.mem_reverse.1 hc)
    · -- The first character that is left is the first one behind the blanks in front.
      intro c hc
      obtain ⟨rest, hrest⟩ := List.head?_eq_some_iff.1 hc
      rw [hrest] at hback
      exact not_isBlank_head_trimStart s c _ hback.symm
    · exact getLast?_dropEnd isBlank (trimStart s)

/-- From a text without blanks none are taken off. -/
theorem trim_eq_self {s : List Char} (h : ∀ c ∈ s, isBlank c = false) : trim s = s := by
  have htrim : IsTrim s s := by
    refine ⟨⟨[], [], by simp, nofun, nofun⟩, ?_, ?_⟩
    · intro c hc
      exact h c (List.mem_of_mem_head? hc)
    · intro c hc
      exact h c (List.mem_of_mem_getLast? hc)
  exact (isTrim_iff.1 htrim).symm

/-- What is taken off an end is copies of the character. -/
theorem exists_eq_dropTrailing_append (c : Char) (s : List Char) :
    ∃ n, s = dropTrailing c s ++ List.replicate n c := by
  have hcopies : s.reverse.takeWhile (· == c) =
      List.replicate (s.reverse.takeWhile (· == c)).length c :=
    List.eq_replicate_of_mem fun d hd => by
      simpa using List.all_eq_true.1 List.all_takeWhile d hd
  refine ⟨(s.reverse.takeWhile (· == c)).length, ?_⟩
  calc
    s = dropTrailing c s ++ (s.reverse.takeWhile (· == c)).reverse := (dropEnd_append_takeEnd (· == c) s).symm
    _ = dropTrailing c s ++ List.replicate (s.reverse.takeWhile (· == c)).length c := by
      rw [← List.reverse_replicate, ← hcopies]

/-- No copy of the character is left at the end. -/
theorem getLast?_dropTrailing_ne (c : Char) (s : List Char) : (dropTrailing c s).getLast? ≠ some c := by
  intro h
  have hne : (c == c) = false := getLast?_dropEnd (· == c) s c h
  simp at hne

end Probe.Text
