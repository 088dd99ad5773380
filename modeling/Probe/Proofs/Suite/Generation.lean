import Probe.Proofs.Expectation.NumberTag
import Probe.Proofs.Expectation.OwnText
import Probe.Suite.Generator

/-!
# Generated values

A generator takes random words until one is accepted. As zeros follow when the words are used up, it stops at the
first of these at the latest. What it makes is a text of the kind that it is named for, and stands for itself as an
expectation. Main statements:

* `Sampler.draws_draw`, `Sampler.draws_drawMany`: which words are taken for which values.
* `Sampler.lt_of_read_below`: a number that is drawn is within its range.
* `isEmail_of_parts`, `isNumber_natural`, `Expectation.literal_of_plain`: what the texts pass for.
* `Generator.makes_generate`: the words that are taken, and the form of the text.
* `generation_law`: every generated text fits its use.
-/

namespace Probe

open Probe.Text
open Probe.Decimal

/-! ## Words -/

/-- The word that comes after `n` others: one of those ahead, or zero when these are used up. -/
def Words.word (words : Words) (n : Nat) : UInt32 :=
  words.ahead[n]?.getD 0

/-- What is left when `n` words have been taken. -/
def Words.skip (words : Words) (n : Nat) : Words :=
  ⟨words.ahead.drop n, words.taken + n⟩

theorem Words.skip_cons (w : UInt32) (ahead : List UInt32) (taken n : Nat) :
    (Words.mk (w :: ahead) taken).skip (n + 1) = (Words.mk ahead (taken + 1)).skip n := by
  rw [skip, skip, List.drop_succ_cons, Nat.add_right_comm, Nat.add_assoc]

namespace Sampler

variable {α : Type}

/-- Words are taken until one is accepted: `n` are refused, and the next one stands for `a`. -/
structure Stops (s : Sampler α) (words : Words) (n : Nat) (a : α) : Prop where
  refused : ∀ i < n, s.read (words.word i) = none
  accepted : s.read (words.word n) = some a
  /-- The first zero behind the words ahead is accepted. -/
  soon : n ≤ words.ahead.length

/-- Values that are drawn one after the other, each from the words that the ones before it have left. -/
inductive Draws (s : Sampler α) : Words → List α → Words → Prop where
  | nil (words : Words) : Draws s words [] words
  | cons {words left : Words} {n : Nat} {a : α} {values : List α} (hfirst : s.Stops words n a)
      (hrest : Draws s (words.skip (n + 1)) values left) : Draws s words (a :: values) left

theorem exists_stops (s : Sampler α) (words : Words) :
    ∃ n, s.Stops words n (s.draw words).1 ∧ (s.draw words).2 = words.skip (n + 1) := by
  obtain ⟨ahead, taken⟩ := words
  induction ahead generalizing taken with
  | nil => exact ⟨0, ⟨nofun, s.read_zero, Nat.le_refl 0⟩, rfl⟩
  | cons w rest ih =>
      cases hw : s.read w with
      | some a =>
          have hdraw : s.draw ⟨w :: rest, taken⟩ = (a, ⟨rest, taken + 1⟩) := by
            simp only [draw, drawFrom, hw]
          rw [hdraw]
          exact ⟨0, ⟨nofun, hw, Nat.zero_le _⟩, rfl⟩
      | none =>
          have hdraw : s.draw ⟨w :: rest, taken⟩ = s.draw ⟨rest, taken + 1⟩ := by
            simp only [draw, drawFrom, hw]
          obtain ⟨n, ⟨hrefused, haccepted, hsoon⟩, hleft⟩ := ih (taken + 1)
          rw [hdraw]
          refine ⟨n + 1, ⟨?_, haccepted, Nat.succ_le_succ hsoon⟩, ?_⟩
          · intro i hi
            cases i with
            | zero => exact hw
            | succ i => exact hrefused i (Nat.lt_of_succ_lt_succ hi)
          · rw [hleft, Words.skip_cons]

theorem draws_draw (s : Sampler α) (words : Words) : s.Draws words [(s.draw words).1] (s.draw words).2 := by
  obtain ⟨n, hstops, hleft⟩ := s.exists_stops words
  rw [hleft]
  exact .cons hstops (.nil _)

theorem draws_drawMany (s : Sampler α) (n : Nat) (words : Words) :
    s.Draws words (s.drawMany n words).1 (s.drawMany n words).2 := by
  induction n generalizing words with
  | zero => exact .nil words
  | succ n ih =>
      obtain ⟨k, hstops, hleft⟩ := s.exists_stops words
      refine .cons hstops ?_
      rw [← hleft]
      exact ih (s.draw words).2

theorem length_drawMany (s : Sampler α) (n : Nat) (words : Words) : (s.drawMany n words).1.length = n := by
  induction n generalizing words with
  | zero => rfl
  | succ n ih => exact congrArg Nat.succ (ih (s.draw words).2)

/-- A value that is drawn is what some word stands for. -/
theorem Draws.exists_read {s : Sampler α} {words left : Words} {values : List α} (h : s.Draws words values left) :
    ∀ a ∈ values, ∃ w, s.read w = some a := by
  induction h with
  | nil => exact nofun
  | cons hfirst _ ih => exact List.forall_mem_cons.2 ⟨⟨_, hfirst.accepted⟩, ih⟩

/-- The upper half of the product of a word and a range is below the range. -/
theorem lt_of_read_below {range : Nat} (hrange : 0 < range) {w : UInt32} {n : Nat}
    (h : (below range).read w = some n) : n < range := by
  simp only [below, Option.ite_none_right_eq_some, Option.some.injEq] at h
  obtain ⟨-, rfl⟩ := h
  have hw : w.toNat < twoTo 32 := w.toNat_lt
  rw [Nat.div_lt_iff_lt_mul (twoTo_pos 32), Nat.mul_comm]
  exact Nat.mul_lt_mul_of_pos_left hw hrange

theorem isLetterOrDigit_of_read_letter {w : UInt32} {c : Char} (h : letter.read w = some c) :
    isLetterOrDigit c = true := by
  have hall : alphabet.all isLetterOrDigit = true := by decide
  exact List.all_eq_true.1 hall c (List.mem_of_getElem? h)

end Sampler

/-! ## Texts -/

theorem isLetterOrDigit_of_isDigit {c : Char} (h : isDigit c = true) : isLetterOrDigit c = true := by
  rw [isLetterOrDigit_eq, Char.isAlphanum, ← isDigit_eq, h, Bool.or_true]

theorem isLetterOrDigit_of_mem_natural {n : Nat} : ∀ c ∈ (toString n).toList, isLetterOrDigit c = true := by
  intro c hc
  have hdigits : (toString n).toList = Nat.toDigits 10 n := Nat.toList_repr
  exact isLetterOrDigit_of_isDigit ((spells_toDigits n).isDigit c (hdigits ▸ hc))

theorem isLocalChar_of_isLetterOrDigit {c : Char} (h : isLetterOrDigit c = true) : isLocalChar c = true := by
  simp [isLocalChar, h]

/-- A local part, an `@` and a domain make an address. -/
theorem isEmail_of_parts {name domain : String} (hne : name ≠ "")
    (hname : ∀ c ∈ name.toList, isLocalChar c = true) (hdomain : isDomain domain.toList = true) :
    isEmail (name ++ "@" ++ domain) = true := by
  have hparts : (name ++ "@" ++ domain).toList = name.toList ++ '@' :: domain.toList := by simp
  have hat : '@' ∉ name.toList := fun hmem => absurd (hname '@' hmem) (by decide)
  have hlocal : name.toList.isEmpty = false := List.isEmpty_eq_false_iff.2 (mt String.toList_eq_nil_iff.1 hne)
  rw [isEmail, hparts, cutFirst_append _ hat]
  simp only [hlocal, hdomain, List.all_eq_true.2 hname, Bool.not_false, Bool.and_self]

theorem isNumber_natural {n : Nat} (h : n ≤ twoTo 64) : isNumber (toString n) = true := by
  have htext : toString n = String.ofList (Nat.toDigits 10 n) := Nat.repr_eq_ofList_toDigits
  rw [htext]
  exact isNumber_toDigits h false

/-- A text without the characters that start a directive stands for itself: it is sent as it is, and accepts the
values with this text and no others. -/
theorem Expectation.literal_of_plain {raw : String} (h : ∀ c ∈ raw.toList, isLocalChar c = true ∨ c = '@') :
    (parse raw).isLiteral = true ∧ (∀ store, (parse raw).resolve store = raw) ∧
      ∀ v store, (parse raw).validate v store = (decide (v.text = raw), store) := by
  have hdirectives : (parse raw).directives = .empty := by
    refine scan_of_plain (fun c hc => ⟨?_, ?_, ?_⟩) _ <;> rintro rfl <;> exact absurd (h _ hc) (by decide)
  have hresolve : ∀ store, (parse raw).resolve store = raw := by
    intro store
    rw [resolve, reference, hdirectives]
    rfl
  refine ⟨?_, hresolve, fun v store => ?_⟩
  · rw [isLiteral, hdirectives]
    rfl
  · have htag : (parse raw).tag = none := congrArg Directives.tag hdirectives
    have hcapture : (parse raw).capture = none := congrArg Directives.capture hdirectives
    rw [validate_eq, insertAll_writes, meets, typeCheck, hresolve, htag, hcapture]
    rfl

/-! ## Generators -/

/-- What a generator makes of the words that it takes. -/
inductive Generator.Makes : Generator → Words → String → Words → Prop where
  | email {words left : Words} {n : Nat} (hdraws : (Sampler.below 100000).Draws words [n] left) (hn : n < 100000) :
      Makes .email words ("test-" ++ toString n ++ "@mail.org") left
  | number {words left : Words} {n : Nat} (hdraws : (Sampler.below 1000000).Draws words [n] left)
      (hn : n < 1000000) : Makes .number words (toString n) left
  | string {words left : Words} {letters : List Char} (hdraws : Sampler.letter.Draws words letters left)
      (hlength : letters.length = 12) (hletters : ∀ c ∈ letters, isLetterOrDigit c = true) :
      Makes .string words (String.ofList letters) left

theorem Sampler.draw_below_lt {range : Nat} (hrange : 0 < range) (words : Words) :
    ((below range).draw words).1 < range := by
  obtain ⟨w, hw⟩ := ((below range).draws_draw words).exists_read _ List.mem_cons_self
  exact lt_of_read_below hrange hw

namespace Generator

theorem generate_email (words : Words) :
    email.generate words =
      ("test-" ++ toString ((Sampler.below 100000).draw words).1 ++ "@mail.org",
        ((Sampler.below 100000).draw words).2) := rfl

theorem generate_number (words : Words) :
    number.generate words =
      (toString ((Sampler.below 1000000).draw words).1, ((Sampler.below 1000000).draw words).2) := rfl

theorem generate_string (words : Words) :
    string.generate words =
      (String.ofList (Sampler.letter.drawMany 12 words).1, (Sampler.letter.drawMany 12 words).2) := by
  simp only [generate]

theorem makes_generate (g : Generator) (words : Words) : g.Makes words (g.generate words).1 (g.generate words).2 := by
  cases g with
  | email =>
      rw [generate_email]
      exact .email ((Sampler.below 100000).draws_draw words) (Sampler.draw_below_lt (by decide) words)
  | number =>
      rw [generate_number]
      exact .number ((Sampler.below 1000000).draws_draw words) (Sampler.draw_below_lt (by decide) words)
  | string =>
      have hdraws := Sampler.letter.draws_drawMany 12 words
      have hlength := Sampler.letter.length_drawMany 12 words
      rw [generate_string]
      generalize Sampler.letter.drawMany 12 words = drawn at hdraws hlength
      refine .string hdraws hlength fun c hc => ?_
      obtain ⟨w, hw⟩ := hdraws.exists_read c hc
      exact Sampler.isLetterOrDigit_of_read_letter hw

end Generator

theorem isLocalChar_of_mem_address {n : Nat} : ∀ c ∈ ("test-" ++ toString n).toList, isLocalChar c = true := by
  have hstem : "test-".toList.all isLocalChar = true := by decide
  rw [String.toList_append]
  refine List.forall_mem_append.2 ⟨List.all_eq_true.1 hstem, fun c hc => ?_⟩
  exact isLocalChar_of_isLetterOrDigit (isLetterOrDigit_of_mem_natural c hc)

theorem isEmail_address (n : Nat) : isEmail ("test-" ++ toString n ++ "@mail.org") = true := by
  have hne : "test-" ++ toString n ≠ "" := fun h => absurd (String.append_eq_empty_iff.1 h).1 (by decide)
  have hend : "@mail.org" = "@" ++ "mail.org" := by decide
  rw [hend, ← String.append_assoc]
  exact isEmail_of_parts hne isLocalChar_of_mem_address (by decide)

/-- Nothing that is generated has a character that starts a directive. -/
theorem Generator.Makes.plain {g : Generator} {words left : Words} {text : String} (h : g.Makes words text left) :
    ∀ c ∈ text.toList, isLocalChar c = true ∨ c = '@' := by
  cases h with
  | email =>
      have hend : "@mail.org".toList.all (fun c => isLocalChar c || c == '@') = true := by decide
      rw [String.toList_append]
      refine List.forall_mem_append.2 ⟨fun c hc => .inl (isLocalChar_of_mem_address c hc), fun c hc => ?_⟩
      simpa using List.all_eq_true.1 hend c hc
  | number => exact fun c hc => .inl (isLocalChar_of_isLetterOrDigit (isLetterOrDigit_of_mem_natural c hc))
  | string _ _ hletters =>
      rw [String.toList_ofList]
      exact fun c hc => .inl (isLocalChar_of_isLetterOrDigit (hletters c hc))

/-- Whatever words a source hands out before its zeros, every generator stops, with a text of its form. A generated
address is one, a generated number is one, and any generated text is a literal expectation: it is sent as it is,
and accepts exactly the values that have it as their text, without writing anything. -/
theorem generation_law (words : Words) :
    isEmail (Generator.email.generate words).1 = true ∧ isNumber (Generator.number.generate words).1 = true ∧
    ∀ g : Generator,
      let text := (g.generate words).1
      let e := Expectation.parse text
      g.Makes words text (g.generate words).2 ∧ e.isLiteral = true ∧ (∀ store, e.resolve store = text) ∧
        ∀ v store, e.validate v store = (decide (v.text = text), store) := by
  refine ⟨?_, ?_, fun g => ?_⟩
  · rw [Generator.generate_email]
    exact isEmail_address _
  · have hlt := Sampler.draw_below_lt (show 0 < 1000000 by decide) words
    rw [Generator.generate_number]
    exact isNumber_natural (Nat.le_of_lt (Nat.lt_trans hlt (by decide)))
  · have hmakes := g.makes_generate words
    exact ⟨hmakes, Expectation.literal_of_plain hmakes.plain⟩

end Probe
