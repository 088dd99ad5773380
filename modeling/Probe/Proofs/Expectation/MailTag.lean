import Mathlib.Computability.RegularExpressions
import Probe.Expectation.TypeTag

/-!
# The mail tag

The kind of mail addresses is given by a pattern. The characters that a domain may have include the point, so that
the pattern may be tried at every point of a domain; but only one way to cut a text comes out, at its only `@` and
at its last point. Main statements:

* `mem_matches_repeated`: what one or more characters of a class match.
* `mem_matches_mailPattern_iff`: a match of the pattern is a text cut in three.
* `isEmail_iff_exists_splits`: trying every point finds such a cut if there is one.
* `MailParts.splits_iff_reads`, `MailParts.Reads.unique`: a text is cut in one way only.
* `mail_reading_law`: the pattern, and the one reading of an address.
-/

namespace Probe

open Probe.Text
open RegularExpression

/-! ## The pattern -/

/-- The characters from one up to another one. -/
def charRange (first last : Char) : List Char :=
  (List.range' first.toNat (last.toNat + 1 - first.toNat)).map Char.ofNat

/-- The ASCII letters. -/
def letters : List Char := charRange 'a' 'z' ++ charRange 'A' 'Z'

/-- The ASCII letters and digits. -/
def lettersAndDigits : List Char := letters ++ charRange '0' '9'

/-- One of the characters of a class. -/
def oneOf (cs : List Char) : RegularExpression Char :=
  (cs.map char).sum

/-- The same once or several times. -/
def repeated (p : RegularExpression Char) : RegularExpression Char :=
  p * p.star

/-- The pattern of a mail address: `[a-zA-Z0-9._\-+]+@[a-zA-Z0-9.-]+\.[a-zA-Z]+`, for the whole text. -/
def mailPattern : RegularExpression Char :=
  repeated (oneOf (lettersAndDigits ++ ['.', '_', '-', '+'])) * char '@' *
    repeated (oneOf (lettersAndDigits ++ ['.', '-'])) * char '.' * repeated (oneOf letters)

theorem mem_charRange {first last c : Char} (h : last.toNat < 0xD800) :
    c ∈ charRange first last ↔ first.toNat ≤ c.toNat ∧ c.toNat ≤ last.toNat := by
  have hcode : ∀ n < 0xD800, (Char.ofNat n).toNat = n := by
    intro n hn
    have hvalid : n.isValidChar := .inl hn
    rw [Char.ofNat, dif_pos hvalid]
    rfl
  simp only [charRange, List.mem_map, List.mem_range'_1]
  constructor
  · rintro ⟨n, hn, rfl⟩
    rw [hcode n (by omega)]
    omega
  · intro hc
    refine ⟨c.toNat, by omega, ?_⟩
    rw [← Char.toNat_inj]
    exact hcode c.toNat (by omega)

theorem mem_letters_iff {c : Char} : c ∈ letters ↔ c.isAlpha = true := by
  rw [letters, List.mem_append, mem_charRange (by decide), mem_charRange (by decide), isAlpha_iff_toNat, or_comm]

theorem mem_lettersAndDigits_iff {c : Char} : c ∈ lettersAndDigits ↔ c.isAlphanum = true := by
  rw [lettersAndDigits, List.mem_append, mem_letters_iff, mem_charRange (by decide), Char.isAlphanum,
    Bool.or_eq_true, Char.isDigit_iff_toNat]

theorem mem_matches_oneOf {cs w : List Char} : w ∈ (oneOf cs).matches' ↔ ∃ c ∈ cs, w = [c] := by
  induction cs with
  | nil => simp [oneOf, matches'_zero]
  | cons c cs ih =>
      have hsum : oneOf (c :: cs) = char c + oneOf cs := rfl
      have hchar : w ∈ (char c).matches' ↔ w = [c] := Iff.rfl
      rw [hsum, matches'_add, Language.mem_add, ih, hchar]
      simp

/-- What is repeated is a character of the class each time. -/
theorem mem_matches_repeated {cs w : List Char} :
    w ∈ (repeated (oneOf cs)).matches' ↔ w ≠ [] ∧ ∀ c ∈ w, c ∈ cs := by
  rw [repeated, matches'_mul, matches'_star, Language.mem_mul]
  constructor
  · rintro ⟨front, hfront, back, hback, rfl⟩
    obtain ⟨c, hc, rfl⟩ := mem_matches_oneOf.1 hfront
    obtain ⟨parts, rfl, hparts⟩ := Language.mem_kstar.1 hback
    refine ⟨List.cons_ne_nil _ _, List.forall_mem_cons.2 ⟨hc, ?_⟩⟩
    intro d hd
    obtain ⟨part, hpart, hd⟩ := List.mem_flatten.1 hd
    obtain ⟨e, he, rfl⟩ := mem_matches_oneOf.1 (hparts part hpart)
    rw [List.mem_singleton.1 hd]
    exact he
  · rintro ⟨hne, hclass⟩
    obtain ⟨c, rest, rfl⟩ := List.exists_cons_of_ne_nil hne
    obtain ⟨hc, hrest⟩ := List.forall_mem_cons.1 hclass
    refine ⟨[c], mem_matches_oneOf.2 ⟨c, hc, rfl⟩, rest, ?_, rfl⟩
    refine Language.mem_kstar.2 ⟨rest.map fun d => [d], (List.flatMap_singleton' rest).symm, ?_⟩
    intro part hpart
    obtain ⟨d, hd, rfl⟩ := List.mem_map.1 hpart
    exact mem_matches_oneOf.2 ⟨d, hrest d hd, rfl⟩

/-! ## Ways to cut a text -/

/-- The parts of a mail address: what is before the `@`, and what is before and behind a point of the domain. -/
structure MailParts where
  name : List Char
  host : List Char
  top : List Char

namespace MailParts

/-- The domain of an address. -/
def domain (p : MailParts) : List Char := p.host ++ '.' :: p.top

/-- A text is cut in parts that have the characters of their classes. -/
structure Splits (p : MailParts) (s : List Char) : Prop where
  text : s = p.name ++ '@' :: p.domain
  name_ne_nil : p.name ≠ []
  name_chars : ∀ c ∈ p.name, c.isAlphanum = true ∨ c ∈ ['.', '_', '-', '+']
  host_ne_nil : p.host ≠ []
  host_chars : ∀ c ∈ p.host, c.isAlphanum = true ∨ c ∈ ['.', '-']
  top_ne_nil : p.top ≠ []
  top_letters : ∀ c ∈ p.top, c.isAlpha = true

/-- A text is read as an address at its only `@` and at the last point behind it. -/
structure Reads (p : MailParts) (s : List Char) : Prop where
  text : s = p.name ++ '@' :: p.domain
  one_at : s.count '@' = 1
  last_point : '.' ∉ p.top
  name_ne_nil : p.name ≠ []
  name_chars : ∀ c ∈ p.name, c.isAlphanum = true ∨ c ∈ ['.', '_', '-', '+']
  domain_chars : ∀ c ∈ p.domain, c.isAlphanum = true ∨ c ∈ ['.', '-']
  host_ne_nil : p.host ≠ []
  top_ne_nil : p.top ≠ []
  top_letters : ∀ c ∈ p.top, c.isAlpha = true

theorem Splits.at_notMem_name {p : MailParts} {s : List Char} (h : p.Splits s) : '@' ∉ p.name :=
  fun hmem => absurd (h.name_chars '@' hmem) (by decide)

end MailParts

theorem mem_matches_mailPattern_iff {s : List Char} :
    s ∈ mailPattern.matches' ↔ ∃ p : MailParts, p.Splits s := by
  have hname : ∀ c, c ∈ lettersAndDigits ++ ['.', '_', '-', '+'] ↔
      c.isAlphanum = true ∨ c ∈ ['.', '_', '-', '+'] := by
    intro c
    rw [List.mem_append, mem_lettersAndDigits_iff]
  have hhost : ∀ c, c ∈ lettersAndDigits ++ ['.', '-'] ↔ c.isAlphanum = true ∨ c ∈ ['.', '-'] := by
    intro c
    rw [List.mem_append, mem_lettersAndDigits_iff]
  simp only [mailPattern, matches'_mul, matches'_char, Language.mem_mul, mem_matches_repeated, hname, hhost,
    mem_letters_iff]
  constructor
  · rintro ⟨_, hhead, top, ⟨ht, htop⟩, rfl⟩
    obtain ⟨_, hhead, _, rfl, rfl⟩ := hhead
    obtain ⟨_, hhead, host, ⟨hh, hhost⟩, rfl⟩ := hhead
    obtain ⟨name, ⟨hn, hname⟩, _, rfl, rfl⟩ := hhead
    exact ⟨⟨name, host, top⟩, by simp [MailParts.domain], hn, hname, hh, hhost, ht, htop⟩
  · rintro ⟨⟨name, host, top⟩, rfl, hn, hname, hh, hhost, ht, htop⟩
    refine ⟨name ++ ['@'] ++ host ++ ['.'], ?_, top, ⟨ht, htop⟩, by simp [MailParts.domain]⟩
    refine ⟨name ++ ['@'] ++ host, ?_, ['.'], rfl, rfl⟩
    refine ⟨name ++ ['@'], ?_, host, ⟨hh, hhost⟩, rfl⟩
    exact ⟨name, ⟨hn, hname⟩, ['@'], rfl, rfl⟩

/-! ## Trying every point -/

theorem isLocalChar_iff {c : Char} :
    isLocalChar c = true ↔ c.isAlphanum = true ∨ c ∈ ['.', '_', '-', '+'] := by
  simp [isLocalChar, isLetterOrDigit_eq, or_assoc]

theorem isHostChar_iff {c : Char} : isHostChar c = true ↔ c.isAlphanum = true ∨ c ∈ ['.', '-'] := by
  simp [isHostChar, isLetterOrDigit_eq, or_assoc]

/-- Every place of the separator is tried, and no other. -/
theorem mem_cutsAt_iff {sep : Char} {s before after : List Char} :
    (before, after) ∈ cutsAt sep s ↔ s = before ++ sep :: after := by
  induction s generalizing before with
  | nil => simp [cutsAt]
  | cons c rest ih =>
      have hlater : (before, after) ∈ (cutsAt sep rest).map (fun parts => (c :: parts.1, parts.2)) ↔
          ∃ front, before = c :: front ∧ rest = front ++ sep :: after := by
        constructor
        · intro h
          obtain ⟨⟨front, back⟩, hmem, heq⟩ := List.mem_map.1 h
          cases heq
          exact ⟨front, rfl, ih.1 hmem⟩
        · rintro ⟨front, rfl, hrest⟩
          exact List.mem_map.2 ⟨(front, after), ih.2 hrest, rfl⟩
      have hsplit : c :: rest = before ++ sep :: after ↔
          (c = sep ∧ before = [] ∧ rest = after) ∨ ∃ front, before = c :: front ∧ rest = front ++ sep :: after := by
        cases before with
        | nil => simp
        | cons b front => simp [eq_comm]
      rw [cutsAt, hsplit]
      split
      · next hc =>
          rw [List.mem_cons, Prod.mk.injEq]
          exact or_congr ⟨fun h => ⟨hc, h.1, h.2.symm⟩, fun h => ⟨h.2.1, h.2.2.symm⟩⟩ hlater
      · next hc =>
          exact hlater.trans ⟨.inr, fun h => h.resolve_left fun hfirst => hc hfirst.1⟩

theorem isDomain_iff {s : List Char} :
    isDomain s = true ↔ ∃ host top, s = host ++ '.' :: top ∧ (host ≠ [] ∧ ∀ c ∈ host, isHostChar c = true) ∧
      top ≠ [] ∧ ∀ c ∈ top, isLetter c = true := by
  rw [isDomain, List.any_eq_true]
  simp [mem_cutsAt_iff, and_assoc]

/-- The first `@` is the only place to look at, because no name holds one. -/
theorem isEmail_iff_exists_splits {s : String} :
    isEmail s = true ↔ ∃ p : MailParts, p.Splits s.toList := by
  have hcut : isEmail s = true ↔ ∃ name domain, cutFirst '@' s.toList = some (name, domain) ∧
      (name ≠ [] ∧ ∀ c ∈ name, isLocalChar c = true) ∧ isDomain domain = true := by
    unfold isEmail
    cases cutFirst '@' s.toList with
    | none => simp
    | some parts =>
        constructor
        · intro h
          exact ⟨parts.1, parts.2, rfl, by simpa [and_assoc] using h⟩
        · rintro ⟨name, domain, heq, h⟩
          cases heq
          simpa [and_assoc] using h
  rw [hcut]
  constructor
  · rintro ⟨name, domain, hat, ⟨hn, hname⟩, hdomain⟩
    obtain ⟨host, top, rfl, ⟨hh, hhost⟩, ht, htop⟩ := isDomain_iff.1 hdomain
    obtain ⟨htext, -⟩ := cutFirst_eq_some_iff.1 hat
    refine ⟨⟨name, host, top⟩, htext, hn, ?_, hh, ?_, ht, ?_⟩
    · intro c hc
      exact isLocalChar_iff.1 (hname c hc)
    · intro c hc
      exact isHostChar_iff.1 (hhost c hc)
    · intro c hc
      rw [← isLetter_eq]
      exact htop c hc
  · rintro ⟨p, h⟩
    have hat : cutFirst '@' s.toList = some (p.name, p.domain) := cutFirst_eq_some_iff.2 ⟨h.text, h.at_notMem_name⟩
    refine ⟨p.name, p.domain, hat, ⟨h.name_ne_nil, ?_⟩, ?_⟩
    · intro c hc
      exact isLocalChar_iff.2 (h.name_chars c hc)
    · refine isDomain_iff.2 ⟨p.host, p.top, rfl, ⟨h.host_ne_nil, ?_⟩, h.top_ne_nil, ?_⟩
      · intro c hc
        exact isHostChar_iff.2 (h.host_chars c hc)
      · intro c hc
        rw [isLetter_eq]
        exact h.top_letters c hc

/-! ## The one reading -/

namespace MailParts

variable {p q : MailParts} {s : List Char}

theorem isAlphanum_of_isAlpha {c : Char} (h : c.isAlpha = true) : c.isAlphanum = true := by
  rw [Char.isAlphanum, h, Bool.true_or]

/-- However a text is cut, the cuts are at its only `@` and at its last point. -/
theorem splits_iff_reads : p.Splits s ↔ p.Reads s := by
  constructor
  · intro h
    have hdomain : ∀ c ∈ p.domain, c.isAlphanum = true ∨ c ∈ ['.', '-'] := by
      refine List.forall_mem_append.2 ⟨h.host_chars, List.forall_mem_cons.2 ⟨.inr (by decide), ?_⟩⟩
      intro c hc
      exact .inl (isAlphanum_of_isAlpha (h.top_letters c hc))
    have hat : '@' ∉ p.domain := fun hmem => absurd (hdomain '@' hmem) (by decide)
    have hone : s.count '@' = 1 := by
      rw [h.text, List.count_append, List.count_cons_self, List.count_eq_zero_of_not_mem h.at_notMem_name,
        List.count_eq_zero_of_not_mem hat]
    have hpoint : '.' ∉ p.top := fun hmem => absurd (h.top_letters '.' hmem) (by decide)
    exact ⟨h.text, hone, hpoint, h.name_ne_nil, h.name_chars, hdomain, h.host_ne_nil, h.top_ne_nil, h.top_letters⟩
  · intro h
    have hhost : ∀ c ∈ p.host, c.isAlphanum = true ∨ c ∈ ['.', '-'] := by
      intro c hc
      exact h.domain_chars c (List.mem_append_left _ hc)
    exact ⟨h.text, h.name_ne_nil, h.name_chars, h.host_ne_nil, hhost, h.top_ne_nil, h.top_letters⟩

/-- A text is read in one way. -/
theorem Reads.unique (hp : p.Reads s) (hq : q.Reads s) : p = q := by
  have hat : ∀ {r : MailParts}, r.Reads s → cutFirst '@' s = some (r.name, r.domain) := by
    intro r hr
    exact cutFirst_eq_some_iff.2 ⟨hr.text, (splits_iff_reads.2 hr).at_notMem_name⟩
  have hpoint : ∀ {r : MailParts}, r.Reads s →
      cutFirst '.' r.domain.reverse = some (r.top.reverse, r.host.reverse) := by
    intro r hr
    refine cutFirst_eq_some_iff.2 ⟨by simp [domain], ?_⟩
    rw [List.mem_reverse]
    exact hr.last_point
  obtain ⟨hname, hdomain⟩ := Prod.mk.inj (Option.some.inj ((hat hp).symm.trans (hat hq)))
  have hlast := hpoint hp
  rw [hdomain, hpoint hq] at hlast
  obtain ⟨htop, hhost⟩ := Prod.mk.inj (Option.some.inj hlast)
  cases p
  cases q
  simp only [List.reverse_inj] at htop hhost
  subst hname htop hhost
  rfl

/-- An address has the characters of its parts only. -/
theorem Reads.mem_text (h : p.Reads s) : ∀ c ∈ s, c.isAlphanum = true ∨ c ∈ ['.', '_', '-', '+', '@'] := by
  rw [h.text]
  refine List.forall_mem_append.2 ⟨?_, List.forall_mem_cons.2 ⟨by decide, ?_⟩⟩
  · intro c hc
    rcases h.name_chars c hc with hletter | hother
    · exact .inl hletter
    · exact .inr (List.mem_append_left ['@'] hother)
  · intro c hc
    rcases h.domain_chars c hc with hletter | hother
    · exact .inl hletter
    · right
      simp only [List.mem_cons, List.not_mem_nil] at hother ⊢
      tauto

end MailParts

/-- The mail tag accepts exactly the texts that its pattern matches as a whole; and these are the texts that can be
read in one way as an address: there is one `@`, a name of letters, digits and `._-+` before it, and a domain of
letters, digits, points and hyphens behind it, which has something before its last point and letters, and nothing
but letters, behind it. No text with a line break is accepted, so that none may follow an address. -/
theorem mail_reading_law (s : String) :
    (isEmail s = true ↔ s.toList ∈ mailPattern.matches') ∧
    (isEmail s = true ↔ ∃! p : MailParts, p.Reads s.toList) ∧
    ∀ rest : String, isEmail (s ++ "\n" ++ rest) = false := by
  refine ⟨?_, ?_, ?_⟩
  · rw [isEmail_iff_exists_splits, mem_matches_mailPattern_iff]
  · rw [isEmail_iff_exists_splits]
    constructor
    · rintro ⟨p, hp⟩
      have hreads := MailParts.splits_iff_reads.1 hp
      exact ⟨p, hreads, fun q hq => hq.unique hreads⟩
    · rintro ⟨p, hp, -⟩
      exact ⟨p, MailParts.splits_iff_reads.2 hp⟩
  · intro rest
    rw [Bool.eq_false_iff]
    intro haccepted
    obtain ⟨p, hp⟩ := isEmail_iff_exists_splits.1 haccepted
    have hbreak : '\n' ∈ (s ++ "\n" ++ rest).toList := by simp
    exact absurd ((MailParts.splits_iff_reads.1 hp).mem_text '\n' hbreak) (by decide)

/-- The last point counts, and a host may start with one. -/
example : isEmail "a@b.org.c0m" = false ∧ isEmail "a@.b.org" = true := by
  decide +kernel

end Probe
