import Probe.Proofs.Decimal.Numeral
import Probe.Text.Blank

/-!
# Written numbers are literals

The text of a number in any layout, with or without an exponent, is a literal that denotes its shortest
decimal. Main statements:

* `denotes_positionalText`, `denotes_exponentText`: the two ways to write a decimal.
* `Layout.denotes_magnitudeText`: the text of a magnitude.
* `Denotes.exists_ofText?_trim`: a literal with a minus in front of it, or without one.
-/

namespace Probe.Decimal

open Probe.Text

/-- A text without a sign and without blanks is a literal that denotes a number. -/
structure Denotes (s : List Char) (q : ℚ) : Prop where
  literal : ∃ l, Literal.ofText? s = some l ∧ l.decimal.value = q
  unsigned : signed s = (false, s)
  solid : ∀ c ∈ s, isBlank c = false

theorem isBlank_of_isDigit {c : Char} (h : isDigit c = true) : isBlank c = false := by
  have hrange := toNat_of_isDigit h
  simp only [isBlank, Bool.or_eq_false_iff, Bool.and_eq_false_iff, decide_eq_false_iff_not, beq_eq_false_iff_ne]
  omega

theorem Spells.solid {s : List Char} {n : Nat} (h : Spells s n) : ∀ c ∈ s, isBlank c = false :=
  fun c hc => isBlank_of_isDigit (h.isDigit c hc)

/-- Digits denote the number that they spell. -/
theorem Spells.denotes {s : List Char} {n : Nat} (h : Spells s n) (hne : s ≠ []) : Denotes s n where
  literal := by
    have hread : Literal.ofText? (s ++ []) = some ⟨false, n, 0⟩ :=
      Literal.ofText?_whole h hne (fun c hc => absurd hc (by simp)) rfl
    rw [List.append_nil] at hread
    refine ⟨_, hread, ?_⟩
    rw [Literal.decimal, Scientific.value, zpow_zero, mul_one]
  unsigned := signed_of_head fun c hc => .inl (h.isDigit c (List.mem_of_mem_head? hc))
  solid := h.solid

section

variable {digits : List Char} {n : Nat}

theorem denotes_positionalText (keepsPoint : Bool) (h : Spells digits n) (hne : digits ≠ []) (e : Int) :
    Denotes (positionalText keepsPoint digits e) (n * 10 ^ e) where
  literal := by
    obtain ⟨l, hl, -, hvalue⟩ := exists_ofText?_positionalText keepsPoint h hne e
    exact ⟨l, hl, hvalue⟩
  unsigned := signed_of_head fun c hc => mem_positionalText keepsPoint h e c (List.mem_of_mem_head? hc)
  solid := by
    intro c hc
    rcases mem_positionalText keepsPoint h e c hc with hdigit | rfl
    · exact isBlank_of_isDigit hdigit
    · decide

/-- How an exponent is written behind the digits. -/
def exponentTail (leading : Int) : List Char :=
  'e' :: (if leading < 0 then '-' else '+') :: Nat.toDigits 10 leading.natAbs

/-- An exponent is written as a power of ten with the same exponent. -/
theorem exists_power_exponentTail (leading : Int) :
    ∃ p : Power, exponentTail leading = powerText (some p) ∧ p.exponent = leading := by
  have hne : Nat.toDigits 10 leading.natAbs ≠ [] := List.length_pos_iff.1 Nat.length_toDigits_pos
  obtain ⟨digits, hdigits⟩ := Digits.exists_of_isDigit (spells_toDigits leading.natAbs).isDigit
  have hvalue : digits.value = leading.natAbs := by
    rw [Digits.value, hdigits, Nat.ofDigitChars_ten_toDigits]
  have hne : digits.chars ≠ [] := hdigits ▸ hne
  by_cases hneg : leading < 0
  · refine ⟨⟨'e', .minus, digits, .inl rfl, hne⟩, ?_, ?_⟩
    · rw [exponentTail, if_pos hneg, ← hdigits]
      rfl
    · simp only [Power.exponent, Sign.factor, hvalue]
      omega
  · refine ⟨⟨'e', .plus, digits, .inl rfl, hne⟩, ?_, ?_⟩
    · rw [exponentTail, if_neg hneg, ← hdigits]
      rfl
    · simp only [Power.exponent, Sign.factor, hvalue]
      omega

theorem exponent?_exponentTail (leading : Int) : exponent? (exponentTail leading) = some leading := by
  obtain ⟨p, htail, hexponent⟩ := exists_power_exponentTail leading
  rw [htail, exponent?_powerText, Option.elim_some, hexponent]

theorem solid_exponentTail (leading : Int) : ∀ c ∈ exponentTail leading, isBlank c = false := by
  refine List.forall_mem_cons.2 ⟨by decide, List.forall_mem_cons.2 ⟨?_, (spells_toDigits _).solid⟩⟩
  split <;> decide

theorem head_exponentTail (leading : Int) :
    ∀ c ∈ (exponentTail leading).head?, isDigit c = false ∧ c ≠ '.' := by
  obtain ⟨p, htail, -⟩ := exists_power_exponentTail leading
  rw [htail]
  exact head_powerText (some p)

theorem exponentText_singleton (d : Char) (leading : Int) : exponentText [d] leading = [d] ++ exponentTail leading :=
  rfl

theorem exponentText_cons_cons (d d' : Char) (rest : List Char) (leading : Int) :
    exponentText (d :: d' :: rest) leading = [d] ++ '.' :: (d' :: rest ++ exponentTail leading) :=
  rfl

/-- Digits with an exponent denote a decimal with the point behind the first of them. -/
theorem denotes_exponentText (h : Spells digits n) (hne : digits ≠ []) (leading : Int) :
    Denotes (exponentText digits leading) (n * 10 ^ (leading - ((digits.length : Int) - 1))) := by
  have hexponent := exponent?_exponentTail leading
  have hhead := head_exponentTail leading
  have htail := solid_exponentTail leading
  have hunsigned : ∀ d rest, digits = d :: rest → ∀ s, signed (d :: s) = (false, d :: s) := by
    rintro d rest rfl s
    have hd : ∀ c ∈ [d], isDigit c = true := List.forall_mem_singleton.2 (h.isDigit d List.mem_cons_self)
    exact signed_of_digits s (List.cons_ne_nil _ _) hd
  rcases digits with _ | ⟨d, _ | ⟨d', rest⟩⟩
  · exact absurd rfl hne
  · rw [exponentText_singleton]
    refine ⟨⟨_, Literal.ofText?_whole h hne hhead hexponent, ?_⟩, hunsigned d _ rfl _, ?_⟩
    · rw [Literal.decimal, Scientific.value, List.length_singleton, Nat.cast_one, sub_self, sub_zero]
    · exact List.forall_mem_append.2 ⟨h.solid, htail⟩
  · -- The point is behind the first digit, so that the others count as a fraction.
    have hread : Literal.ofText? ([d] ++ '.' :: (d' :: rest ++ exponentTail leading)) =
        some ⟨false, n, leading - ((d' :: rest).length : Int)⟩ :=
      Literal.ofText?_pointed h (List.cons_ne_nil _ _) (fun c hc => (hhead c hc).1) hexponent
    rw [exponentText_cons_cons]
    refine ⟨⟨_, hread, ?_⟩, hunsigned d _ rfl _, ?_⟩
    · rw [Literal.decimal, Scientific.value, List.length_cons (a := d), Nat.cast_succ, add_sub_cancel_right]
    · obtain ⟨hfirst, hrest⟩ := List.forall_mem_cons.1 h.solid
      exact List.forall_mem_cons.2 ⟨hfirst, List.forall_mem_cons.2 ⟨by decide,
        List.forall_mem_append.2 ⟨hrest, htail⟩⟩⟩

end

/-- The text of a magnitude denotes its shortest decimal, in any layout. -/
theorem Layout.denotes_magnitudeText (layout : Layout) (m : Magnitude) :
    Denotes (layout.magnitudeText m) (m.shortest layout.tie).value := by
  obtain ⟨n, hn, hvalue⟩ := exists_value_significant (m.shortest layout.tie)
  have hne := significant_ne_nil (m.shortest layout.tie)
  have hpositional := denotes_positionalText layout.keepsPoint hn hne (significant (m.shortest layout.tie)).2
  have hexponent := denotes_exponentText hn hne (m.shortest layout.tie).leading
  rw [← hvalue] at hpositional
  rw [Scientific.leading, sub_sub_sub_cancel_right, add_sub_cancel_right, ← hvalue] at hexponent
  simp only [magnitudeText]
  split
  · split
    · exact hpositional
    · exact hexponent
  · exact hpositional

/-- A minus in front of an unsigned literal only changes its sign. -/
theorem Literal.ofText?_minus {s : List Char} {l : Literal} (hs : signed s = (false, s))
    (h : ofText? s = some l) : ofText? ('-' :: s) = some { l with negative := true } := by
  have hminus : signed ('-' :: s) = (true, s) := rfl
  simp only [ofText?, hs, hminus, Option.bind_eq_bind, Option.bind_eq_some_iff] at h ⊢
  obtain ⟨digits, hdigits, exponent, hexponent, hl⟩ := h
  cases hl
  exact ⟨digits, hdigits, exponent, hexponent, rfl⟩

/-- A literal may have a minus in front of it, and there is nothing to trim. -/
theorem Denotes.exists_ofText?_trim {s : List Char} {q : ℚ} (h : Denotes s q) (negative : Bool) :
    ∃ l, Literal.ofText? (trim (if negative then '-' :: s else s)) = some l ∧ l.decimal.value = q := by
  obtain ⟨l, hl, hvalue⟩ := h.literal
  cases negative with
  | false =>
      refine ⟨l, ?_, hvalue⟩
      simp only [Bool.false_eq_true, if_false]
      rw [trim_eq_self h.solid, hl]
  | true =>
      refine ⟨{ l with negative := true }, ?_, hvalue⟩
      rw [if_pos rfl, trim_eq_self (List.forall_mem_cons.2 ⟨by decide, h.solid⟩)]
      exact Literal.ofText?_minus h.unsigned hl

end Probe.Decimal
