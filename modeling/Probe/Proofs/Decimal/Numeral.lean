import Mathlib.Algebra.Order.Ring.Abs
import Probe.Proofs.Decimal.Layout

/-!
# Numerals

A numeral is an optional sign, digits with an optional point among or beside them, and an optional power of ten.
It stands for a rational number, which is written out here digit by digit and without rounding. Every numeral
is read as a literal that denotes its number, and nothing else is read. Main statements:

* `mantissa_text`, `exists_of_mantissa`: the digits around the point, written and read.
* `Numeral.ofText?_text`, `Numeral.exists_of_ofText?`: numerals and no other texts are read.
* `Numeral.ofText?_eq_some_iff`: what a text is read as.
* `Numeral.abs_value`: the number of a numeral apart from its sign.
-/

namespace Probe.Decimal

/-! ## The parts of a numeral -/

/-- A sign, which may be left out. -/
inductive Sign where
  | absent
  | plus
  | minus
  deriving DecidableEq, Repr

namespace Sign

def text : Sign → List Char
  | absent => []
  | plus => ['+']
  | minus => ['-']

def factor : Sign → Int
  | absent => 1
  | plus => 1
  | minus => -1

def isMinus : Sign → Bool
  | absent => false
  | plus => false
  | minus => true

end Sign

/-- A text of decimal digits; it may be empty. -/
structure Digits where
  chars : List Char
  all_isDigit : chars.all Char.isDigit = true

namespace Digits

/-- No digits. -/
def empty : Digits := ⟨[], rfl⟩

theorem isDigit (d : Digits) : ∀ c ∈ d.chars, c.isDigit = true :=
  List.all_eq_true.1 d.all_isDigit

/-- The number that digits spell. -/
def value (d : Digits) : Nat := Nat.ofDigitChars 10 d.chars 0

/-- The number that digits behind a point spell. -/
def fractionValue (d : Digits) : ℚ := d.value / 10 ^ d.chars.length

def append (d d' : Digits) : Digits :=
  ⟨d.chars ++ d'.chars, List.all_eq_true.2 (List.forall_mem_append.2 ⟨d.isDigit, d'.isDigit⟩)⟩

end Digits

/-- A power of ten behind the digits of a numeral: `e` or `E`, a sign and at least one digit. -/
structure Power where
  mark : Char
  sign : Sign
  digits : Digits
  mark_eq : mark = 'e' ∨ mark = 'E'
  digits_ne_nil : digits.chars ≠ []

namespace Power

def text (p : Power) : List Char := p.mark :: (p.sign.text ++ p.digits.chars)

def exponent (p : Power) : Int := p.sign.factor * p.digits.value

end Power

/-- A decimal numeral: a sign, digits, a point with digits behind it, and a power of ten. All but the digits may be
left out, and there is a digit on one side of the point. -/
structure Numeral where
  sign : Sign
  whole : Digits
  fraction : Option Digits
  power : Option Power
  hasDigit : whole.chars ≠ [] ∨ ∃ d ∈ fraction, d.chars ≠ []

/-- A point with the digits behind it, or nothing. -/
def fractionText (fraction : Option Digits) : List Char :=
  fraction.elim [] fun d => '.' :: d.chars

/-- A power of ten, or nothing. -/
def powerText (power : Option Power) : List Char :=
  power.elim [] Power.text

namespace Numeral

def text (n : Numeral) : List Char :=
  n.sign.text ++ (n.whole.chars ++ (fractionText n.fraction ++ powerText n.power))

/-- The exponent of the power of ten; zero if it is left out. -/
def exponent (n : Numeral) : Int := n.power.elim 0 Power.exponent

/-- The number that a numeral stands for. -/
def value (n : Numeral) : ℚ :=
  n.sign.factor * (n.whole.value + n.fraction.elim 0 Digits.fractionValue) * 10 ^ n.exponent

/-- The digits of a numeral without the point. -/
def digits (n : Numeral) : Digits := n.whole.append (n.fraction.getD .empty)

/-- The literal that a numeral is read as: the point is moved behind all digits. -/
def literal (n : Numeral) : Literal :=
  ⟨n.sign.isMinus, n.digits.value, n.exponent - ((n.fraction.getD .empty).chars.length : Int)⟩

end Numeral

/-! ## Digits -/

theorem isDigit_eq (c : Char) : isDigit c = c.isDigit := by
  rw [Bool.eq_iff_iff, Char.isDigit_iff_toNat]
  constructor
  · exact toNat_of_isDigit
  · intro h
    have hrange : 48 ≤ c.toNat ∧ c.toNat ≤ 57 := h
    have hlt : c.toNat - 48 < 10 := by omega
    simp [isDigit, digitValue?, hrange, hlt]

theorem digitValue?_of_isDigit {c : Char} (h : c.isDigit = true) : digitValue? 10 c = some (c.toNat - 48) := by
  have hrange : 48 ≤ c.toNat ∧ c.toNat ≤ 57 := Char.isDigit_iff_toNat.1 h
  have hlt : c.toNat - 48 < 10 := by omega
  simp [digitValue?, hrange, hlt]

namespace Digits

variable (d : Digits)

theorem spells : Spells d.chars d.value := by
  obtain ⟨chars, hdigits⟩ := d
  induction chars using List.reverseRecOn with
  | nil => exact spells_nil
  | append_singleton front c ih =>
      obtain ⟨hfront, hlast⟩ := List.forall_mem_append.1 (List.all_eq_true.1 hdigits)
      have hc := spells_singleton (digitValue?_of_isDigit (hlast c (List.mem_singleton_self c)))
      have hboth := (ih (List.all_eq_true.2 hfront)).append hc
      simpa [value, Nat.ofDigitChars_append, Nat.ofDigitChars_cons, Nat.ofDigitChars_nil, tenTo, Nat.mul_comm]
        using hboth

theorem isDigit_chars : ∀ c ∈ d.chars, Decimal.isDigit c = true := by
  intro c hc
  rw [isDigit_eq]
  exact d.isDigit c hc

theorem exists_of_isDigit {s : List Char} (h : ∀ c ∈ s, Decimal.isDigit c = true) : ∃ d : Digits, d.chars = s :=
  ⟨⟨s, List.all_eq_true.2 fun c hc => isDigit_eq c ▸ h c hc⟩, rfl⟩

/-- Digits that are read spell their number. -/
theorem exists_of_natural? {s : List Char} {n : Nat} (h : natural? 10 s = some n) :
    ∃ d : Digits, d.chars = s ∧ s ≠ [] := by
  rw [natural?, Option.ite_none_left_eq_some] at h
  obtain ⟨hne, hspells⟩ := h
  obtain ⟨d, hd⟩ := exists_of_isDigit (Spells.isDigit hspells)
  exact ⟨d, hd, by simpa using hne⟩

theorem value_append (d' : Digits) : (d.append d').value = d.value * 10 ^ d'.chars.length + d'.value := by
  rw [value, value, value, append, Nat.ofDigitChars_append, Nat.ofDigitChars_eq_ofDigitChars_zero, Nat.mul_comm]

end Digits

/-! ## Signs, fractions and powers -/

theorem signed_text (sign : Sign) {s : List Char} (h : ∀ c ∈ s.head?, isDigit c = true ∨ c = '.') :
    signed (sign.text ++ s) = (sign.isMinus, s) := by
  cases sign with
  | absent => exact signed_of_head h
  | plus => rfl
  | minus => rfl

theorem exists_sign (s : List Char) : ∃ sign : Sign, s = sign.text ++ (signed s).2 := by
  unfold signed
  split
  · exact ⟨.plus, rfl⟩
  · exact ⟨.minus, rfl⟩
  · exact ⟨.absent, rfl⟩

theorem head_powerText (power : Option Power) :
    ∀ c ∈ (powerText power).head?, isDigit c = false ∧ c ≠ '.' := by
  intro c hc
  cases power with
  | none => cases hc
  | some p =>
      cases hc
      rcases p.mark_eq with hmark | hmark
      · rw [hmark]
        decide
      · rw [hmark]
        decide

/-- A power of ten is read as its exponent. -/
theorem exponent?_powerText (power : Option Power) :
    exponent? (powerText power) = some (power.elim 0 Power.exponent) := by
  cases power with
  | none => rfl
  | some p =>
      have hsigned : signed (p.sign.text ++ p.digits.chars) = (p.sign.isMinus, p.digits.chars) :=
        signed_text p.sign fun c hc => .inl (p.digits.isDigit_chars c (List.mem_of_mem_head? hc))
      have hread := p.digits.spells.natural? p.digits_ne_nil
      simp only [powerText, Option.elim_some, Power.text, exponent?, if_pos p.mark_eq, hsigned, hread,
        Power.exponent]
      cases p.sign <;> simp [Sign.isMinus, Sign.factor]

theorem exists_power {s : List Char} {e : Int} (h : exponent? s = some e) : ∃ power, s = powerText power := by
  cases s with
  | nil => exact ⟨none, rfl⟩
  | cons c rest =>
      rw [exponent?, Option.ite_none_right_eq_some] at h
      obtain ⟨hmark, h⟩ := h
      obtain ⟨_, hread, -⟩ := Option.map_eq_some_iff.1 h
      obtain ⟨n, hn, -⟩ := Option.bind_eq_some_iff.1 hread
      obtain ⟨digits, hdigits, hne⟩ := Digits.exists_of_natural? hn
      obtain ⟨sign, hsign⟩ := exists_sign rest
      have hne : digits.chars ≠ [] := hdigits ▸ hne
      refine ⟨some ⟨c, sign, digits, hmark, hne⟩, congrArg (c :: ·) ?_⟩
      calc rest = sign.text ++ (signed rest).2 := hsign
        _ = sign.text ++ digits.chars := congrArg _ hdigits.symm

/-- The digits around a point, and what follows them. -/
theorem mantissa_text (whole : Digits) (fraction : Option Digits) {tail : List Char}
    (htail : ∀ c ∈ tail.head?, isDigit c = false ∧ c ≠ '.') :
    Literal.mantissa (whole.chars ++ (fractionText fraction ++ tail)) =
      (whole.chars, (fraction.getD .empty).chars, tail) := by
  cases fraction with
  | none => exact Literal.mantissa_whole whole.isDigit_chars htail
  | some d => exact Literal.mantissa_pointed whole.isDigit_chars d.isDigit_chars fun c hc => (htail c hc).1

/-- Any text starts with digits around a point, be they none. -/
theorem exists_of_mantissa (s : List Char) :
    ∃ (whole : Digits) (fraction : Option Digits) (tail : List Char),
      Literal.mantissa s = (whole.chars, (fraction.getD .empty).chars, tail) ∧
        s = whole.chars ++ (fractionText fraction ++ tail) := by
  have hdigits : ∀ r : List Char, ∃ d : Digits, d.chars = r.takeWhile isDigit := by
    intro r
    exact Digits.exists_of_isDigit fun c hc => List.all_eq_true.1 List.all_takeWhile c hc
  obtain ⟨whole, hwhole⟩ := hdigits s
  have hs : s.takeWhile isDigit ++ s.dropWhile isDigit = s := List.takeWhile_append_dropWhile
  unfold Literal.mantissa
  simp only
  split
  · next rest hrest =>
      obtain ⟨d, hd⟩ := hdigits rest
      refine ⟨whole, some d, rest.dropWhile isDigit, ?_, ?_⟩
      · rw [hwhole, Option.getD_some, hd]
      · rw [fractionText, Option.elim_some, hd, hwhole, List.cons_append, List.takeWhile_append_dropWhile, ← hrest, hs]
  · refine ⟨whole, none, s.dropWhile isDigit, ?_, ?_⟩
    · rw [hwhole]
      rfl
    · rw [hwhole]
      exact hs.symm

/-! ## Reading a numeral -/

namespace Numeral

variable (n : Numeral)

theorem digits_ne_nil : n.digits.chars ≠ [] := by
  rcases n.hasDigit with hwhole | ⟨d, hd, hne⟩
  · exact List.append_ne_nil_of_left_ne_nil hwhole _
  · refine List.append_ne_nil_of_right_ne_nil _ ?_
    rw [hd]
    exact hne

theorem head_unsigned :
    ∀ c ∈ (n.whole.chars ++ (fractionText n.fraction ++ powerText n.power)).head?, isDigit c = true ∨ c = '.' := by
  intro c hc
  cases hwhole : n.whole.chars with
  | cons d rest =>
      have hd : isDigit d = true := n.whole.isDigit_chars d (hwhole ▸ List.mem_cons_self)
      rw [hwhole] at hc
      cases hc
      exact .inl hd
  | nil =>
      -- Without digits in front there is a point, since there are digits behind one.
      rcases n.hasDigit with hne | ⟨d, hd, -⟩
      · exact absurd hwhole hne
      · rw [hwhole, hd] at hc
        cases hc
        exact .inr rfl

/-- A numeral is read as its literal. -/
theorem ofText?_text : Literal.ofText? n.text = some n.literal := by
  have hsigned := signed_text n.sign n.head_unsigned
  have hmantissa := mantissa_text n.whole n.fraction (head_powerText n.power)
  have hexponent := exponent?_powerText n.power
  exact Literal.ofText?_of_mantissa hsigned hmantissa n.digits_ne_nil n.digits.spells hexponent

/-- Nothing else is read. -/
theorem exists_of_ofText? {s : List Char} {l : Literal} (h : Literal.ofText? s = some l) :
    ∃ n : Numeral, n.text = s := by
  obtain ⟨sign, hsign⟩ := exists_sign s
  obtain ⟨whole, fraction, tail, hmantissa, hrest⟩ := exists_of_mantissa (signed s).2
  simp only [Literal.ofText?, hmantissa, Option.bind_eq_bind, Option.bind_eq_some_iff] at h
  obtain ⟨k, hk, e, he, -⟩ := h
  obtain ⟨power, hpower⟩ := exists_power he
  obtain ⟨-, -, hne⟩ := Digits.exists_of_natural? hk
  have hasDigit : whole.chars ≠ [] ∨ ∃ d ∈ fraction, d.chars ≠ [] := by
    by_cases hwhole : whole.chars = []
    · rw [hwhole, List.nil_append] at hne
      cases fraction with
      | none => exact absurd rfl hne
      | some behind => exact .inr ⟨behind, rfl, hne⟩
    · exact .inl hwhole
  refine ⟨⟨sign, whole, fraction, power, hasDigit⟩, ?_⟩
  rw [text, ← hpower, ← hrest, ← hsign]

/-- What a text is read as is the literal of the numeral that it is. -/
theorem ofText?_eq_some_iff {s : List Char} {l : Literal} :
    Literal.ofText? s = some l ↔ ∃ n : Numeral, n.text = s ∧ n.literal = l := by
  constructor
  · intro h
    obtain ⟨n, rfl⟩ := exists_of_ofText? h
    rw [n.ofText?_text] at h
    exact ⟨n, rfl, Option.some.inj h⟩
  · rintro ⟨n, rfl, rfl⟩
    exact n.ofText?_text

/-! ## The number of a numeral -/

/-- Moving the point behind all digits changes the exponent and not the number. -/
theorem value_eq : n.value = n.sign.factor * n.literal.decimal.value := by
  have hpos : (10 : ℚ) ^ (n.fraction.getD .empty).chars.length ≠ 0 := by positivity
  have hfraction : n.fraction.elim 0 Digits.fractionValue = (n.fraction.getD .empty).fractionValue := by
    cases n.fraction with
    | none => simp [Digits.fractionValue, Digits.value, Digits.empty, Nat.ofDigitChars_nil]
    | some d => rfl
  rw [value, hfraction, Literal.decimal, Scientific.value, literal, digits, Digits.value_append,
    Digits.fractionValue, zpow_sub₀ (by norm_num), zpow_natCast]
  push_cast
  field_simp

theorem abs_value : |n.value| = n.literal.decimal.value := by
  have hfactor : |(n.sign.factor : ℚ)| = 1 := by
    cases n.sign <;> simp [Sign.factor]
  have hnonneg : 0 ≤ n.literal.decimal.value := by
    rw [Scientific.value]
    positivity
  rw [value_eq, abs_mul, hfactor, one_mul, abs_of_nonneg hnonneg]

/-! ## The characters of a numeral -/

theorem exists_digit : ∃ c ∈ n.text, c.isDigit = true := by
  rcases n.hasDigit with hwhole | ⟨d, hd, hne⟩
  · obtain ⟨c, rest, hc⟩ := List.exists_cons_of_ne_nil hwhole
    have hmem : c ∈ n.whole.chars := hc ▸ List.mem_cons_self
    exact ⟨c, by simp [text, hmem], n.whole.isDigit c hmem⟩
  · obtain ⟨c, rest, hc⟩ := List.exists_cons_of_ne_nil hne
    have hmem : c ∈ d.chars := hc ▸ List.mem_cons_self
    have hfraction : n.fraction = some d := hd
    exact ⟨c, by simp [text, fractionText, hfraction, hmem], d.isDigit c hmem⟩

/-- A numeral has digits, signs, a point and the mark of an exponent only. -/
theorem mem_text : ∀ c ∈ n.text, c.isDigit = true ∨ c ∈ ['+', '-', '.', 'e', 'E'] := by
  have hsign : ∀ sign : Sign, ∀ c ∈ sign.text, c.isDigit = true ∨ c ∈ ['+', '-', '.', 'e', 'E'] := by
    intro sign
    cases sign <;> simp [Sign.text]
  have hdigits : ∀ d : Digits, ∀ c ∈ d.chars, c.isDigit = true ∨ c ∈ ['+', '-', '.', 'e', 'E'] := by
    intro d c hc
    exact .inl (d.isDigit c hc)
  refine List.forall_mem_append.2 ⟨hsign n.sign, List.forall_mem_append.2 ⟨hdigits n.whole,
    List.forall_mem_append.2 ⟨?_, ?_⟩⟩⟩
  · cases n.fraction with
    | none => exact nofun
    | some d => exact List.forall_mem_cons.2 ⟨.inr (by decide), hdigits d⟩
  · cases n.power with
    | none => exact nofun
    | some p =>
        refine List.forall_mem_cons.2 ⟨.inr ?_, List.forall_mem_append.2 ⟨hsign p.sign, hdigits p.digits⟩⟩
        rcases p.mark_eq with hmark | hmark
        · rw [hmark]
          decide
        · rw [hmark]
          decide

end Numeral

end Probe.Decimal
