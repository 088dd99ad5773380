import Probe.Expectation.Basic

/-!
# Three searches in place of one pass

Each form of directive can be searched for on its own, over the whole of a text: its first match counts,
and of the matches that start there the one with the longest name. The one pass that reads all three forms
comes to the same, because no directive that it passes over hides the start of another form. Main
statements:

* `Form.finds_iff`: what a search finds is the first and longest match.
* `Directives.complete_of_extend?`: a directive that is passed over hides nothing.
* `Directives.scan_eq_complete`: one pass comes to what three searches find.
-/

namespace Probe

open Probe.Text

/-- A form of directive: a name between an opening and a closing text. -/
structure Form where
  opening : List Char
  closing : List Char
  opens : opening ≠ []
  /-- The closing text does not go on with the name. -/
  closes : ∀ c ∈ closing.head?, isNameChar c = false
  /-- Nothing in a name opens a form. -/
  opensApart : ∀ c ∈ opening.head?, isNameChar c = false
  twoMarks : opening.length + closing.length = 2
  ascii : ∀ c ∈ opening ++ closing, c.toNat < 128

namespace Form

/-- A name in braces. -/
def reference : Form where
  opening := ['\x7b']
  closing := ['\x7d']
  opens := List.cons_ne_nil _ _
  closes := by rintro c ⟨⟩; rfl
  opensApart := by rintro c ⟨⟩; rfl
  twoMarks := rfl
  ascii := by simp

/-- A name in brackets. -/
def tag : Form where
  opening := ['[']
  closing := [']']
  opens := List.cons_ne_nil _ _
  closes := by rintro c ⟨⟩; rfl
  opensApart := by rintro c ⟨⟩; rfl
  twoMarks := rfl
  ascii := by simp

/-- A name behind two arrows. -/
def capture : Form where
  opening := ['>', '>']
  closing := []
  opens := List.cons_ne_nil _ _
  closes := by rintro c ⟨⟩
  opensApart := by rintro c ⟨⟩; rfl
  twoMarks := rfl
  ascii := by simp

variable (f : Form)

/-- A directive of a form as it is written. -/
def spell (name : List Char) : List Char :=
  f.opening ++ name ++ f.closing

/-- A match of a form in a text: its name, of ASCII letters, digits and underscores, and what stands before and
after the match. -/
structure Matches (s before name after : List Char) : Prop where
  split : s = before ++ (f.spell name ++ after)
  nonempty : name ≠ []
  chars : ∀ c ∈ name, c.isAlphanum = true ∨ c = '_'

theorem Matches.isNameChar {f : Form} {s before name after : List Char} (h : f.Matches s before name after) :
    ∀ c ∈ name, isNameChar c = true :=
  fun c hc => isNameChar_iff.2 (h.chars c hc)

/-- What a search over a whole text has to find: the name of the first match, the longest one there is at
that place, or nothing if the text has no match. -/
inductive Finds (s : List Char) : Option (List Char) → Prop where
  | first {before name after : List Char} (hmatch : f.Matches s before name after)
      (hfirst : ∀ before' name' after', f.Matches s before' name' after' →
        before.length < before'.length ∨ before.length = before'.length ∧ name'.length ≤ name.length) :
      Finds s (some name)
  | absent (hnone : ∀ before name after, ¬ f.Matches s before name after) : Finds s none

/-- The longest name of a match at the start of a text. -/
def at? (s : List Char) : Option (List Char) := do
  let inner ← dropLead? f.opening s
  let name := inner.takeWhile isNameChar
  let _ ← dropLead? f.closing (inner.dropWhile isNameChar)
  if name = [] then none else some name

/-- The first match in a text, searched for from the left. -/
def search? : List Char → Option (List Char)
  | [] => none
  | c :: rest =>
      match f.at? (c :: rest) with
      | some name => some name
      | none => search? rest

/-! ## What a search finds -/

theorem matches_of_at? {s name : List Char} (h : f.at? s = some name) :
    ∃ after, f.Matches s [] name after := by
  simp only [at?, Option.bind_eq_bind, Option.bind_eq_some_iff] at h
  obtain ⟨inner, hopening, after, hclosing, hname⟩ := h
  split at hname
  · cases hname
  · next hne =>
      obtain rfl := Option.some.inj hname
      refine ⟨after, ?_, hne, fun c hc => isNameChar_iff.1 (List.all_eq_true.1 List.all_takeWhile c hc)⟩
      rw [List.nil_append, spell, List.append_assoc, List.append_assoc, ← eq_append_of_dropLead? hclosing,
        List.takeWhile_append_dropWhile]
      exact eq_append_of_dropLead? hopening

/-- Where there is a match there is a longest one. -/
theorem at?_of_matches {s name after : List Char} (h : f.Matches s [] name after) :
    ∃ longest, f.at? s = some longest ∧ name.length ≤ longest.length := by
  have hinner : dropLead? f.opening s = some (name ++ (f.closing ++ after)) := by
    rw [h.split, List.nil_append, spell, List.append_assoc, List.append_assoc]
    exact dropLead?_append _ _
  have htake : (name ++ (f.closing ++ after)).takeWhile isNameChar =
      name ++ (f.closing ++ after).takeWhile isNameChar := List.takeWhile_append_of_pos h.isNameChar
  have hdrop : (name ++ (f.closing ++ after)).dropWhile isNameChar =
      (f.closing ++ after).dropWhile isNameChar := List.dropWhile_append_of_pos h.isNameChar
  -- A closing text ends the name where it stands; without one the name goes on as far as it can.
  have hclosing : ∃ rest, dropLead? f.closing ((f.closing ++ after).dropWhile isNameChar) = some rest := by
    cases hc : f.closing with
    | nil => exact ⟨_, rfl⟩
    | cons c closing =>
        have hstop : isNameChar c = false := f.closes c (by simp [hc])
        rw [List.cons_append, List.dropWhile_cons, hstop]
        exact ⟨after, dropLead?_append (c :: closing) after⟩
  obtain ⟨rest, hrest⟩ := hclosing
  have hne : name ++ (f.closing ++ after).takeWhile isNameChar ≠ [] :=
    List.append_ne_nil_of_left_ne_nil h.nonempty _
  refine ⟨name ++ (f.closing ++ after).takeWhile isNameChar, ?_, by simp⟩
  simp only [at?, hinner, htake, hdrop, hrest, Option.bind_eq_bind, Option.bind_some, if_neg hne]

theorem matches_cons_iff (c : Char) (rest before name after : List Char) :
    f.Matches (c :: rest) (c :: before) name after ↔ f.Matches rest before name after := by
  constructor
  · rintro ⟨hsplit, hne, hchars⟩
    exact ⟨(List.cons.inj hsplit).2, hne, hchars⟩
  · rintro ⟨hsplit, hne, hchars⟩
    exact ⟨congrArg (c :: ·) hsplit, hne, hchars⟩

/-- A match that does not start a text is one in the rest of it. -/
theorem Matches.tail {c : Char} {rest before name after : List Char} {f : Form}
    (h : f.Matches (c :: rest) before name after) (hne : before ≠ []) :
    ∃ before', before = c :: before' ∧ f.Matches rest before' name after := by
  cases before with
  | nil => exact absurd rfl hne
  | cons d before =>
      obtain rfl : c = d := (List.cons.inj h.split).1
      exact ⟨before, rfl, (f.matches_cons_iff c rest before name after).1 h⟩

/-- A search finds the first match, and the longest name that a match at that place has. -/
theorem finds_search? (s : List Char) : f.Finds s (f.search? s) := by
  induction s with
  | nil =>
      refine .absent fun before name after h => f.opens ?_
      have hnil := h.split
      simp only [spell, List.nil_eq, List.append_eq_nil_iff] at hnil
      exact hnil.2.1.1.1
  | cons c rest ih =>
      rw [search?]
      split
      · next name hat =>
          obtain ⟨after, hmatch⟩ := f.matches_of_at? hat
          refine .first hmatch fun before' name' after' h => ?_
          by_cases hbefore : before' = []
          · subst hbefore
            obtain ⟨longest, hlongest, hle⟩ := f.at?_of_matches h
            obtain rfl : name = longest := Option.some.inj (hat.symm.trans hlongest)
            exact .inr ⟨rfl, hle⟩
          · exact .inl (List.length_pos_iff.2 hbefore)
      · next hat =>
          -- No match starts here, so that every match is one of the rest.
          have htail : ∀ before name after, f.Matches (c :: rest) before name after →
              ∃ before', before = c :: before' ∧ f.Matches rest before' name after := by
            intro before name after h
            apply h.tail
            rintro rfl
            obtain ⟨longest, hlongest, -⟩ := f.at?_of_matches h
            rw [hat] at hlongest
            cases hlongest
          generalize f.search? rest = found at ih
          cases ih with
          | first hmatch hfirst =>
              refine .first ((f.matches_cons_iff c rest _ _ _).2 hmatch) fun before' name' after' h => ?_
              obtain ⟨before'', rfl, hrest⟩ := htail before' name' after' h
              simpa using hfirst before'' name' after' hrest
          | absent hnone =>
              refine .absent fun before name after h => ?_
              obtain ⟨before', -, hrest⟩ := htail before name after h
              exact hnone before' name after hrest

/-- Of two matches that are each first and longest both names are the same. -/
theorem Finds.unique {f : Form} {s : List Char} {found found' : Option (List Char)} (h : f.Finds s found)
    (h' : f.Finds s found') : found = found' := by
  cases h with
  | absent hnone =>
      cases h' with
      | absent => rfl
      | first hmatch' => exact absurd hmatch' (hnone _ _ _)
  | @first before name after hmatch hfirst =>
      cases h' with
      | absent hnone => exact absurd hmatch (hnone _ _ _)
      | @first before' name' after' hmatch' hfirst' =>
          have hle := hfirst _ _ _ hmatch'
          have hle' := hfirst' _ _ _ hmatch
          have hplace : before.length = before'.length := by omega
          have hname : name.length = name'.length := by omega
          have hsplit := hmatch.split.symm.trans hmatch'.split
          have hspell := (List.append_inj hsplit hplace).2
          simp only [spell, List.append_assoc] at hspell
          have hrest := List.append_cancel_left hspell
          rw [(List.append_inj hrest hname).1]

theorem finds_iff {s : List Char} {found : Option (List Char)} : f.Finds s found ↔ f.search? s = found := by
  constructor
  · exact fun h => (f.finds_search? s).unique h
  · rintro rfl
    exact f.finds_search? s

/-! ## Searching further on -/

theorem search?_of_at? {c : Char} {rest name : List Char} (h : f.at? (c :: rest) = some name) :
    f.search? (c :: rest) = some name := by
  rw [search?, h]

theorem search?_of_at?_none {c : Char} {rest : List Char} (h : f.at? (c :: rest) = none) :
    f.search? (c :: rest) = f.search? rest := by
  rw [search?, h]

/-- Only the first character of its opening text starts a match. -/
theorem at?_cons_of_ne {c : Char} (rest : List Char) (h : f.opening.head? ≠ some c) :
    f.at? (c :: rest) = none := by
  cases ho : f.opening with
  | nil => exact absurd ho f.opens
  | cons d opening =>
      have hne : d ≠ c := by simpa [ho] using h
      simp [at?, ho, dropLead?, hne]

/-- Characters that start no match are passed over. -/
theorem search?_append {passed : List Char} (rest : List Char)
    (h : ∀ c ∈ passed, f.opening.head? ≠ some c) : f.search? (passed ++ rest) = f.search? rest := by
  induction passed with
  | nil => rfl
  | cons c passed ih =>
      rw [List.cons_append, f.search?_of_at?_none (f.at?_cons_of_ne _ (h c List.mem_cons_self))]
      exact ih fun d hd => h d (List.mem_cons_of_mem c hd)

/-- Whether the opening of a form starts with no character of another one's opening and closing text. -/
def isApartFrom (g f : Form) : Bool :=
  (f.opening ++ f.closing).all fun c => g.opening.head? != some c

/-- A directive hides no start of a form that is apart from its own. -/
theorem search?_spell_append {f g : Form} (hapart : g.isApartFrom f = true) {name : List Char}
    (hname : ∀ c ∈ name, isNameChar c = true) (after : List Char) :
    g.search? (f.spell name ++ after) = g.search? after := by
  have hmarks : ∀ c ∈ f.opening ++ f.closing, g.opening.head? ≠ some c := by
    simpa only [bne_iff_ne] using List.all_eq_true.1 hapart
  apply g.search?_append
  intro c hc hopens
  rcases List.mem_append.1 hc with hc | hc
  · rcases List.mem_append.1 hc with hc | hc
    · exact hmarks c (List.mem_append_left _ hc) hopens
    · have hnot := g.opensApart c hopens
      rw [hname c hc] at hnot
      cases hnot
  · exact hmarks c (List.mem_append_right _ hc) hopens

theorem length_spell (name : List Char) : (f.spell name).length = name.length + 1 + 1 := by
  have hmarks := f.twoMarks
  simp only [spell, List.length_append]
  omega

/-- A match at the start of a text, and what is behind it. -/
theorem split_of_at? {c : Char} {rest name : List Char} (h : f.at? (c :: rest) = some name) :
    c :: rest = f.spell name ++ rest.drop (name.length + 1) ∧ ∀ d ∈ name, isNameChar d = true := by
  obtain ⟨after, hmatch⟩ := f.matches_of_at? h
  have hs : c :: rest = f.spell name ++ after := hmatch.split
  have hafter : rest.drop (name.length + 1) = after := by
    rw [← List.drop_succ_cons (a := c), hs, ← f.length_spell name, List.drop_left]
  rw [hafter]
  exact ⟨hs, hmatch.isNameChar⟩

/-- A search goes on behind a match of a form that it is apart from. -/
theorem search?_drop_of_at? {f g : Form} {c : Char} {rest name : List Char}
    (h : f.at? (c :: rest) = some name) (hapart : g.isApartFrom f = true) :
    g.search? (rest.drop (name.length + 1)) = g.search? (c :: rest) := by
  obtain ⟨hsplit, hname⟩ := f.split_of_at? h
  rw [hsplit, search?_spell_append hapart hname]

/-! ## One form at a time -/

theorem at?_of_closed {f : Form} {opener closer : Char} (rest : List Char) (hopening : f.opening = [opener])
    (hclosing : f.closing = [closer]) : f.at? (opener :: rest) = closedName? closer rest := by
  simp only [at?, closedName?, hopening, hclosing, dropLead?, if_true, Option.bind_eq_bind, Option.bind_some]
  generalize rest.takeWhile isNameChar = name
  generalize rest.dropWhile isNameChar = after
  cases after with
  | nil => simp [dropLead?]
  | cons d after =>
      by_cases hd : closer = d
      · simp [dropLead?, hd]
      · simp [dropLead?, hd, Ne.symm hd]

theorem at?_capture (rest : List Char) : capture.at? ('>' :: rest) =
    match rest with
    | '>' :: rest => openName? rest
    | _ => none := by
  split
  · simp [at?, openName?, capture, dropLead?]
  · next hrest =>
      cases rest with
      | nil => rfl
      | cons d rest =>
          have hd : '>' ≠ d := by
            rintro rfl
            exact hrest rest rfl
          simp [at?, capture, dropLead?, hd]

section

variable {α : Type} (value : List Char → α) {a : Option α} {c : Char} {rest : List Char}

/-- Where no match starts, or none is searched for any more, the search goes on. -/
theorem or_search?_cons (h : a = none → f.at? (c :: rest) = none) :
    a.or ((f.search? (c :: rest)).map value) = a.or ((f.search? rest).map value) := by
  cases a with
  | some _ => rfl
  | none => rw [f.search?_of_at?_none (h rfl)]

end

end Form

namespace Directives

/-- What has been found, and what searches over a text find of the forms that have not. -/
def complete (found : Directives) (s : List Char) : Directives where
  reference := found.reference.or ((Form.reference.search? s).map String.ofList)
  tag := found.tag.or ((Form.tag.search? s).map fun name => .ofName (String.ofList name))
  capture := found.capture.or ((Form.capture.search? s).map String.ofList)

theorem complete_nil (found : Directives) : found.complete [] = found := by
  simp [complete, Form.search?]

/-- A directive that is read is a match of a form not found yet. -/
theorem extend?_cases {found found' : Directives} {c : Char} {rest : List Char} {inside : Nat}
    (h : found.extend? c rest = some (found', inside)) :
    ∃ name, inside = name.length + 1 ∧
      ((found.reference = none ∧ Form.reference.at? (c :: rest) = some name ∧
          found' = { found with reference := some (String.ofList name) }) ∨
        (found.tag = none ∧ Form.tag.at? (c :: rest) = some name ∧
          found' = { found with tag := some (.ofName (String.ofList name)) }) ∨
        (found.capture = none ∧ Form.capture.at? (c :: rest) = some name ∧
          found' = { found with capture := some (String.ofList name) })) := by
  unfold extend? at h
  split at h
  · next hc =>
      obtain ⟨name, hname, heq⟩ := Option.map_eq_some_iff.1 h
      obtain ⟨rfl, rfl⟩ := Prod.mk.inj heq
      obtain ⟨rfl, hnone⟩ := hc
      refine ⟨name, rfl, .inl ⟨Option.isNone_iff_eq_none.1 hnone, ?_, rfl⟩⟩
      rw [Form.at?_of_closed rest rfl rfl, hname]
  · split at h
    · next hc =>
        obtain ⟨name, hname, heq⟩ := Option.map_eq_some_iff.1 h
        obtain ⟨rfl, rfl⟩ := Prod.mk.inj heq
        obtain ⟨rfl, hnone⟩ := hc
        refine ⟨name, rfl, .inr (.inl ⟨Option.isNone_iff_eq_none.1 hnone, ?_, rfl⟩)⟩
        rw [Form.at?_of_closed rest rfl rfl, hname]
    · split at h
      · next hc =>
          obtain ⟨rfl, hnone⟩ := hc
          split at h
          · next rest =>
              obtain ⟨name, hname, heq⟩ := Option.map_eq_some_iff.1 h
              obtain ⟨rfl, rfl⟩ := Prod.mk.inj heq
              refine ⟨name, rfl, .inr (.inr ⟨Option.isNone_iff_eq_none.1 hnone, ?_, rfl⟩)⟩
              rw [Form.at?_capture]
              exact hname
          · cases h
      · cases h

/-- A directive that is read is spelled in its form, and what is inside of it ends where it does. -/
theorem exists_spell_of_extend? {found found' : Directives} {c : Char} {rest : List Char} {inside : Nat}
    (h : found.extend? c rest = some (found', inside)) :
    ∃ (f : Form) (name : List Char), inside = name.length + 1 ∧
      c :: rest = f.spell name ++ rest.drop inside ∧ ∀ d ∈ name, isNameChar d = true := by
  obtain ⟨name, rfl, ⟨-, hat, -⟩ | ⟨-, hat, -⟩ | ⟨-, hat, -⟩⟩ := extend?_cases h
  · exact ⟨.reference, name, rfl, Form.split_of_at? _ hat⟩
  · exact ⟨.tag, name, rfl, Form.split_of_at? _ hat⟩
  · exact ⟨.capture, name, rfl, Form.split_of_at? _ hat⟩

/-- Where no directive is read, no form not found yet has a match. -/
theorem at?_of_extend?_none {found : Directives} {c : Char} {rest : List Char}
    (h : found.extend? c rest = none) :
    (found.reference = none → Form.reference.at? (c :: rest) = none) ∧
      (found.tag = none → Form.tag.at? (c :: rest) = none) ∧
      (found.capture = none → Form.capture.at? (c :: rest) = none) := by
  refine ⟨fun hnone => ?_, fun hnone => ?_, fun hnone => ?_⟩
  · by_cases hc : c = '\x7b'
    · subst hc
      rw [Form.at?_of_closed rest rfl rfl]
      simpa [extend?, hnone] using h
    · exact Form.at?_cons_of_ne _ rest (by simp [Form.reference, Ne.symm hc])
  · by_cases hc : c = '['
    · subst hc
      rw [Form.at?_of_closed rest rfl rfl]
      simpa [extend?, hnone] using h
    · exact Form.at?_cons_of_ne _ rest (by simp [Form.tag, Ne.symm hc])
  · by_cases hc : c = '>'
    · subst hc
      rw [Form.at?_capture]
      split
      · simpa [extend?, hnone] using h
      · rfl
    · exact Form.at?_cons_of_ne _ rest (by simp [Form.capture, Ne.symm hc])

/-- A character at which no directive is read hides nothing. -/
theorem complete_cons_of_none {found : Directives} {c : Char} {rest : List Char}
    (h : found.extend? c rest = none) : found.complete (c :: rest) = found.complete rest := by
  obtain ⟨hreference, htag, hcapture⟩ := at?_of_extend?_none h
  unfold complete
  rw [Form.or_search?_cons _ _ hreference, Form.or_search?_cons _ _ htag,
    Form.or_search?_cons _ _ hcapture]

/-- A directive that is passed over hides no start of another one: the forms are apart from each other,
and nothing in a name opens a form. -/
theorem complete_of_extend? {found found' : Directives} {c : Char} {rest : List Char} {inside : Nat}
    (h : found.extend? c rest = some (found', inside)) :
    found'.complete (rest.drop inside) = found.complete (c :: rest) := by
  obtain ⟨name, rfl, ⟨hnone, hat, rfl⟩ | ⟨hnone, hat, rfl⟩ | ⟨hnone, hat, rfl⟩⟩ := extend?_cases h
  · have htag := Form.search?_drop_of_at? (g := .tag) hat rfl
    have hcapture := Form.search?_drop_of_at? (g := .capture) hat rfl
    simp [complete, hnone, Form.search?_of_at? _ hat, htag, hcapture]
  · have hreference := Form.search?_drop_of_at? (g := .reference) hat rfl
    have hcapture := Form.search?_drop_of_at? (g := .capture) hat rfl
    simp [complete, hnone, Form.search?_of_at? _ hat, hreference, hcapture]
  · have hreference := Form.search?_drop_of_at? (g := .reference) hat rfl
    have htag := Form.search?_drop_of_at? (g := .tag) hat rfl
    simp [complete, hnone, Form.search?_of_at? _ hat, hreference, htag]

/-- One pass over a text comes to what the searches find, from where the last directive that it read
ends. -/
theorem scan_eq_complete (found : Directives) (inside : Nat) (s : List Char) :
    found.scan inside s = found.complete (s.drop inside) := by
  induction s generalizing found inside with
  | nil => rw [List.drop_nil, complete_nil]; cases inside <;> rfl
  | cons c rest ih =>
      cases inside with
      | succ inside => exact ih found inside
      | zero =>
          rw [scan, List.drop_zero]
          split
          · next found' inside h => rw [ih, complete_of_extend? h]
          · next h => rw [ih, List.drop_zero, complete_cons_of_none h]

/-- A bracket in broken braces and arrows behind a third one. -/
example : empty.scan 0 "\x7b[x]\x7d>>>ID".toList = ⟨none, some (.unknown "x"), some "ID"⟩ := by decide

end Directives

end Probe
