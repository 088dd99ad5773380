import Probe.Proofs.Decimal.Shortest
import Probe.Proofs.Json.Text
import Probe.Text.Segments

/-!
# Texts of decimals

A decimal written with a point is a literal that denotes it, so that different decimals have different texts.
How a number is written is settled by its size: whether it has a fraction, and where its first digit stands.
Main statements:

* `exists_ofText?_positionalText`: what the text without an exponent denotes.
* `leading_bounds`: the place of the first digit.
* `plain_text_eq_iff`: the numbers that are written the same way as plain decimals and in JSON.
-/

namespace Probe.Decimal

open Probe.Text

/-! ## Reading a literal -/

theorem signed_of_head {s : List Char} (h : ∀ c ∈ s.head?, isDigit c = true ∨ c = '.') :
    signed s = (false, s) := by
  unfold signed
  split
  · exact absurd (h '+' rfl) (by decide)
  · exact absurd (h '-' rfl) (by decide)
  · rfl

theorem signed_of_digits {s : List Char} (rest : List Char) (hne : s ≠ []) (hs : ∀ c ∈ s, isDigit c = true) :
    signed (s ++ rest) = (false, s ++ rest) := by
  refine signed_of_head ?_
  intro c hc
  rw [List.head?_append_of_ne_nil _ hne] at hc
  exact .inl (hs c (List.mem_of_mem_head? hc))

namespace Literal

/-- The decimal that a literal denotes apart from its sign. -/
def decimal (l : Literal) : Scientific := ⟨l.digits, l.exponent⟩

theorem mantissa_whole {whole tail : List Char} (hwhole : ∀ c ∈ whole, isDigit c = true)
    (htail : ∀ c ∈ tail.head?, isDigit c = false ∧ c ≠ '.') : mantissa (whole ++ tail) = (whole, [], tail) := by
  obtain ⟨htake, hdrop⟩ := takeWhile_append_of_stop hwhole fun c hc => (htail c hc).1
  rw [mantissa, htake, hdrop]
  cases tail with
  | nil => rfl
  | cons c rest =>
      have hpoint : c ≠ '.' := (htail c rfl).2
      simp [hpoint]

theorem mantissa_pointed {whole fraction tail : List Char} (hwhole : ∀ c ∈ whole, isDigit c = true)
    (hfraction : ∀ c ∈ fraction, isDigit c = true) (htail : ∀ c ∈ tail.head?, isDigit c = false) :
    mantissa (whole ++ '.' :: (fraction ++ tail)) = (whole, fraction, tail) := by
  have hpoint : ∀ c ∈ ('.' :: (fraction ++ tail)).head?, isDigit c = false := by
    intro c hc
    cases hc
    rfl
  obtain ⟨htake, hdrop⟩ := takeWhile_append_of_stop hwhole hpoint
  obtain ⟨htake', hdrop'⟩ := takeWhile_append_of_stop hfraction htail
  simp only [mantissa, htake, hdrop, htake', hdrop']

/-- A text is a literal if digits around a point, which spell a number, and an exponent follow its sign. -/
theorem ofText?_of_mantissa {s rest whole fraction tail : List Char} {negative : Bool} {n : Nat} {e : Int}
    (hs : signed s = (negative, rest)) (hrest : mantissa rest = (whole, fraction, tail))
    (hne : whole ++ fraction ≠ []) (hn : Spells (whole ++ fraction) n) (he : exponent? tail = some e) :
    ofText? s = some ⟨negative, n, e - (fraction.length : Int)⟩ := by
  simp only [ofText?, hs, hrest, hn.natural? hne, he, Option.bind_eq_bind, Option.bind_some]

theorem ofText?_whole {whole tail : List Char} {n : Nat} {e : Int} (hn : Spells whole n) (hne : whole ≠ [])
    (htail : ∀ c ∈ tail.head?, isDigit c = false ∧ c ≠ '.') (he : exponent? tail = some e) :
    ofText? (whole ++ tail) = some ⟨false, n, e⟩ := by
  have h := ofText?_of_mantissa (signed_of_digits tail hne hn.isDigit) (mantissa_whole hn.isDigit htail)
    (by rwa [List.append_nil]) (by rwa [List.append_nil]) he
  rwa [List.length_nil, Int.natCast_zero, Int.sub_zero] at h

theorem ofText?_pointed {whole fraction tail : List Char} {n : Nat} {e : Int}
    (hn : Spells (whole ++ fraction) n) (hne : whole ≠ []) (htail : ∀ c ∈ tail.head?, isDigit c = false)
    (he : exponent? tail = some e) :
    ofText? (whole ++ '.' :: (fraction ++ tail)) = some ⟨false, n, e - (fraction.length : Int)⟩ := by
  have hwhole : ∀ c ∈ whole, isDigit c = true := fun c hc => hn.isDigit c (List.mem_append_left _ hc)
  have hfraction : ∀ c ∈ fraction, isDigit c = true := fun c hc => hn.isDigit c (List.mem_append_right _ hc)
  have hboth : whole ++ fraction ≠ [] := List.append_ne_nil_of_left_ne_nil hne fraction
  exact ofText?_of_mantissa (signed_of_digits _ hne hwhole) (mantissa_pointed hwhole hfraction htail) hboth hn he

end Literal

/-! ## Texts without an exponent -/

section

variable {digits : List Char} {n : Nat}

/-- Digits with a point denote the decimal that they are written for. -/
theorem exists_ofText?_positionalText (keepsPoint : Bool) (h : Spells digits n) (hne : digits ≠ []) (e : Int) :
    ∃ l, Literal.ofText? (positionalText keepsPoint digits e) = some l ∧ l.negative = false ∧
      l.decimal.value = n * 10 ^ e := by
  have hpointed : ∀ {whole fraction : List Char} {k : Nat}, Spells (whole ++ fraction) k → whole ≠ [] →
      Literal.ofText? (whole ++ '.' :: fraction) = some ⟨false, k, 0 - (fraction.length : Int)⟩ := by
    intro whole fraction k hspells hwhole
    have htail : ∀ c ∈ ([] : List Char).head?, isDigit c = false := fun c hc => absurd hc (by simp)
    have := Literal.ofText?_pointed hspells hwhole htail rfl
    rwa [List.append_nil] at this
  unfold positionalText
  split
  · -- A whole number has zeros behind its digits, and one more behind the point if there is one.
    next he =>
      obtain ⟨k, rfl⟩ := Int.eq_ofNat_of_zero_le he
      have hwhole : Spells (digits ++ zeros k) (n * tenTo k) := by
        have := h.append (spells_zeros k)
        rwa [length_zeros, Nat.add_zero] at this
      have hwholeNe : digits ++ zeros k ≠ [] := List.append_ne_nil_of_left_ne_nil hne _
      rw [Int.toNat_natCast]
      cases keepsPoint with
      | false =>
          refine ⟨_, Literal.ofText?_whole hwhole hwholeNe (fun c hc => absurd hc (by simp)) rfl, rfl, ?_⟩
          rw [Literal.decimal, Scientific.value, zpow_zero, mul_one, Nat.cast_mul, tenTo_cast, zpow_natCast]
      | true =>
          have hfraction := hwhole.append (spells_zeros 1)
          refine ⟨_, hpointed hfraction hwholeNe, rfl, ?_⟩
          rw [Literal.decimal, Scientific.value, Nat.add_zero, length_zeros, Nat.cast_mul, Nat.cast_mul,
            tenTo_cast, tenTo_cast, zpow_natCast]
          simp
  · next he =>
      obtain ⟨k, rfl⟩ : ∃ k : Nat, e = -(k : Int) := ⟨(-e).toNat, by omega⟩
      simp only [Int.neg_neg, Int.toNat_natCast]
      split
      · -- The point stands between the digits.
        next hk =>
          refine ⟨_, hpointed (by rwa [List.take_append_drop]) ?_, rfl, ?_⟩
          · intro hnil
            have := congrArg List.length hnil
            rw [List.length_take, List.length_nil] at this
            omega
          · rw [Literal.decimal, Scientific.value, List.length_drop, Nat.sub_sub_self hk.le, Int.zero_sub]
      · -- The point and zeros stand before them.
        next hk =>
          have hzeros := (spells_zeros 1).append ((spells_zeros (k - digits.length)).append h)
          rw [Nat.zero_mul, Nat.zero_mul, Nat.zero_add, Nat.zero_add] at hzeros
          refine ⟨_, hpointed hzeros (List.cons_ne_nil _ _), rfl, ?_⟩
          rw [Literal.decimal, Scientific.value, List.length_append, length_zeros,
            Nat.sub_add_cancel (Nat.not_lt.1 hk), Int.zero_sub]

/-- A text without an exponent has nothing but digits and a point. -/
theorem mem_positionalText (keepsPoint : Bool) (h : Spells digits n) (e : Int) :
    ∀ c ∈ positionalText keepsPoint digits e, isDigit c = true ∨ c = '.' := by
  have hdigits : ∀ c ∈ digits, isDigit c = true ∨ c = '.' := fun c hc => .inl (h.isDigit c hc)
  have hzeros : ∀ k, ∀ c ∈ zeros k, isDigit c = true ∨ c = '.' :=
    fun k c hc => .inl ((spells_zeros k).isDigit c hc)
  unfold positionalText
  split
  · refine List.forall_mem_append.2 ⟨List.forall_mem_append.2 ⟨hdigits, hzeros _⟩, ?_⟩
    cases keepsPoint with
    | false => exact fun c hc => absurd hc List.not_mem_nil
    | true => exact List.forall_mem_cons.2 ⟨.inr rfl, hzeros 1⟩
  · simp only
    split
    · exact List.forall_mem_append.2 ⟨fun c hc => hdigits c (List.mem_of_mem_take hc),
        List.forall_mem_cons.2 ⟨.inr rfl, fun c hc => hdigits c (List.mem_of_mem_drop hc)⟩⟩
    · exact List.forall_mem_cons.2 ⟨.inl rfl, List.forall_mem_cons.2 ⟨.inr rfl,
        List.forall_mem_append.2 ⟨hzeros _, hdigits⟩⟩⟩

theorem positionalText_of_nonneg (h : Spells digits n) {e : Int} (he : 0 ≤ e) :
    (∀ c ∈ positionalText false digits e, isDigit c = true) ∧ '.' ∈ positionalText true digits e := by
  rw [positionalText, positionalText, if_pos he, if_pos he]
  refine ⟨fun c hc => ?_, by simp⟩
  rcases List.mem_append.1 hc with hc | hc
  · rcases List.mem_append.1 hc with hc | hc
    · exact h.isDigit c hc
    · exact (spells_zeros _).isDigit c hc
  · cases hc

/-- A decimal with a fraction needs no point to be kept. -/
theorem positionalText_of_neg (digits : List Char) {e : Int} (he : e < 0) :
    positionalText true digits e = positionalText false digits e := by
  rw [positionalText, positionalText, if_neg (not_le.2 he), if_neg (not_le.2 he)]

theorem mem_exponentText (digits : List Char) (leading : Int) : 'e' ∈ exponentText digits leading := by
  simp [exponentText]

end

/-! ## The digits of a decimal -/

/-- The digits kept of a decimal denote it. -/
theorem exists_value_significant (d : Scientific) :
    ∃ n : Nat, Spells (significant d).1 n ∧ d.value = n * 10 ^ (significant d).2 := by
  by_cases hd : d.digits = 0
  · refine ⟨0, ?_, ?_⟩
    · rw [significant_of_digits_eq_zero hd]
      exact spells_zeros 1
    · rw [Scientific.value, hd, Nat.cast_zero, zero_mul, zero_mul]
  · obtain ⟨n, dropped, hn, hdigits, hexponent, -⟩ := exists_spells_significant d hd
    refine ⟨n, hn, ?_⟩
    rw [Scientific.value, hdigits, hexponent, zpow_add₀ (by norm_num), zpow_natCast, Nat.cast_mul, tenTo_cast]
    ring

/-- The exponent of the first digit of a decimal. -/
def Scientific.leading (d : Scientific) : Int :=
  (significant d).2 + ((significant d).1.length : Int) - 1

theorem leading_bounds {d : Scientific} (hd : d.digits ≠ 0) :
    (10 : ℚ) ^ d.leading ≤ d.value ∧ d.value < 10 ^ (d.leading + 1) := by
  obtain ⟨n, hn, hvalue⟩ := exists_value_significant d
  obtain ⟨n', -, hn', -, -, hlarge⟩ := exists_spells_significant d hd
  obtain rfl : n = n' := hn.unique hn'
  have hlength : 0 < (significant d).1.length := List.length_pos_iff.2 (significant_ne_nil d)
  have hpos := zpow_ten_pos (significant d).2
  have hsmall := hn.lt
  rw [Scientific.leading, hvalue]
  generalize (significant d).1.length = k at hlength hlarge hsmall ⊢
  generalize (significant d).2 = e at hpos ⊢
  constructor
  · rw [show e + (k : Int) - 1 = ((k - 1 : Nat) : Int) + e by omega, zpow_add₀ (by norm_num), zpow_natCast,
      ← tenTo_cast]
    exact mul_le_mul_of_nonneg_right (Nat.cast_le.2 hlarge) hpos.le
  · rw [show e + (k : Int) - 1 + 1 = (k : Int) + e by omega, zpow_add₀ (by norm_num), zpow_natCast, ← tenTo_cast]
    exact mul_lt_mul_of_pos_right (Nat.cast_lt.2 hsmall) hpos

/-- Decimals on one grid that have the same plain text are equal. -/
theorem eq_of_positionalText_eq {d d' : Scientific} (hexponent : d.exponent = d'.exponent)
    (h : positionalText false (significant d).1 (significant d).2 =
      positionalText false (significant d').1 (significant d').2) : d = d' := by
  obtain ⟨n, hn, hvalue⟩ := exists_value_significant d
  obtain ⟨n', hn', hvalue'⟩ := exists_value_significant d'
  obtain ⟨l, hl, -, hdenotes⟩ := exists_ofText?_positionalText false hn (significant_ne_nil d) (significant d).2
  obtain ⟨l', hl', -, hdenotes'⟩ :=
    exists_ofText?_positionalText false hn' (significant_ne_nil d') (significant d').2
  rw [h, hl'] at hl
  obtain rfl : l' = l := Option.some.inj hl
  have heq : d.value = d'.value := by rw [hvalue, hvalue', ← hdenotes, ← hdenotes']
  rw [Scientific.value, Scientific.value, hexponent, mul_left_inj' (zpow_ten_pos _).ne', Nat.cast_inj] at heq
  cases d
  cases d'
  exact congr (congrArg Scientific.mk heq) hexponent

/-! ## Numbers that keep their text -/

namespace Magnitude

variable {m : Magnitude}

/-- A whole number is written without a fraction. -/
theorem significant_nonneg_of_isWhole (hm : m.WellFormed) (h : m.IsWhole) (tie : Tie) :
    0 ≤ (significant (m.shortest tie)).2 := by
  cases hz : m.isZero with
  | true => rw [shortest, hz, if_pos rfl, significant_of_digits_eq_zero rfl]
  | false =>
      obtain ⟨e, -, he, hshortest, hmost⟩ := exists_grid hm hz
      have hd := hshortest tie
      obtain ⟨-, dropped, -, -, hexponent, -⟩ := exists_spells_significant _ (hd.digits_ne_zero hz he)
      have := exponent_nonneg_of_isWhole hm hz h hmost
      rw [hexponent, hd.exponent_eq]
      omega

/-- A number that is not whole is written with a fraction. -/
theorem significant_neg_of_not_isWhole {d : Scientific} (h : ¬ m.IsWhole) (hd : m.readsBack d = true) :
    (significant d).2 < 0 := by
  by_contra hle
  obtain ⟨k, hk⟩ := Int.eq_ofNat_of_zero_le (not_lt.1 hle)
  obtain ⟨n, -, hvalue⟩ := exists_value_significant d
  refine value_ne_of_not_isWhole h hd (n * 10 ^ k) ?_
  rw [hvalue, hk, zpow_natCast]
  push_cast
  rfl

theorem isZero_of_not_isWhole (h : ¬ m.IsWhole) : m.isZero = false := by
  rw [Bool.eq_false_iff]
  intro hz
  have hzero : m.mantissa = 0 := by simpa [isZero] using hz
  refine h ⟨0, ?_⟩
  rw [units, hzero, Nat.zero_mul, Nat.mul_zero]

/-- How large a number with a fraction is, by the place of the first digit of its shortest decimal. -/
theorem leading_of_not_isWhole (hm : m.WellFormed) (h : ¬ m.IsWhole) (tie : Tie) :
    (m.shortest tie).leading ≤ 15 ∧ (-5 ≤ (m.shortest tie).leading ↔ one ≤ m.units * tenTo 5) := by
  have hz := isZero_of_not_isWhole h
  obtain ⟨e, -, he, hshortest, -⟩ := exists_grid hm hz
  have hd := hshortest tie
  obtain ⟨hlow, hhigh⟩ := leading_bounds (hd.digits_ne_zero hz he)
  have hlt : ∀ {j k : Int}, (10 : ℚ) ^ j < 10 ^ k → j < k := (zpow_lt_zpow_iff_right₀ (by norm_num)).1
  refine ⟨?_, fun hleading => Nat.not_lt.1 fun hsmall => ?_, fun hlarge => ?_⟩
  · have := hlt (k := 16) (hlow.trans_lt (by exact_mod_cast value_lt_of_not_isWhole hm h hd.readsBack))
    omega
  · have := hlt (hlow.trans_lt (value_lt_of_small hm hsmall hd.readsBack))
    omega
  · have := hlt ((le_value_of_large hz hlarge hd he).trans_lt hhigh)
    omega

end Magnitude

/-- A number is written the same way as a plain decimal and in JSON: it is not whole, it is not below `1e-5`,
and no two shortest decimals are equally near. -/
structure Binary64.KeepsText (x : Binary64) : Prop where
  not_whole : ¬ x.magnitude.IsWhole
  large : one ≤ x.magnitude.units * tenTo 5
  tie : x.magnitude.shortest .up = x.magnitude.shortest .toEven

theorem magnitudeText_numberLayout (m : Magnitude) :
    Json.numberLayout.magnitudeText m =
      if -5 ≤ (m.shortest .toEven).leading ∧ (m.shortest .toEven).leading ≤ 15 then
        positionalText true (significant (m.shortest .toEven)).1 (significant (m.shortest .toEven)).2
      else exponentText (significant (m.shortest .toEven)).1 (m.shortest .toEven).leading :=
  rfl

theorem magnitudeText_plain (m : Magnitude) :
    plain.magnitudeText m =
      positionalText false (significant (m.shortest .up)).1 (significant (m.shortest .up)).2 :=
  rfl

theorem text_eq_text_iff (layout layout' : Layout) (x : Binary64) :
    layout.text x = layout'.text x ↔ layout.magnitudeText x.magnitude = layout'.magnitudeText x.magnitude := by
  rw [Layout.text, Layout.text, String.ofList_inj]
  cases x.negative <;> simp

/-- The numbers that are written the same way as plain decimals and in JSON. -/
theorem plain_text_eq_iff {x : Binary64} (hx : x.magnitude.WellFormed) :
    plain.text x = Json.numberLayout.text x ↔ x.KeepsText := by
  rw [text_eq_text_iff, magnitudeText_plain, magnitudeText_numberLayout]
  obtain ⟨n, hn, -⟩ := exists_value_significant (x.magnitude.shortest .up)
  obtain ⟨n', hn', -⟩ := exists_value_significant (x.magnitude.shortest .toEven)
  by_cases hwhole : x.magnitude.IsWhole
  · -- The plain text has digits only, the other one a point or an exponent.
    refine iff_of_false (fun heq => ?_) fun h => h.not_whole hwhole
    have hup := x.magnitude.significant_nonneg_of_isWhole hx hwhole .up
    have heven := x.magnitude.significant_nonneg_of_isWhole hx hwhole .toEven
    have hdigits := (positionalText_of_nonneg hn hup).1
    rw [heq] at hdigits
    split at hdigits
    · exact absurd (hdigits _ (positionalText_of_nonneg hn' heven).2) (by decide)
    · exact absurd (hdigits _ (mem_exponentText _ _)) (by decide)
  · have hz := Magnitude.isZero_of_not_isWhole hwhole
    obtain ⟨e, -, -, hshortest, -⟩ := Magnitude.exists_grid hx hz
    have hneg := Magnitude.significant_neg_of_not_isWhole hwhole (hshortest .toEven).readsBack
    obtain ⟨hmost, hleast⟩ := Magnitude.leading_of_not_isWhole hx hwhole .toEven
    rw [positionalText_of_neg _ hneg]
    constructor
    · intro heq
      split at heq
      · next hleading =>
          refine ⟨hwhole, hleast.1 hleading.1, eq_of_positionalText_eq ?_ heq⟩
          rw [(hshortest .up).exponent_eq, (hshortest .toEven).exponent_eq]
      · have hmem := mem_exponentText (significant (x.magnitude.shortest .toEven)).1
          (x.magnitude.shortest .toEven).leading
        rw [← heq] at hmem
        rcases mem_positionalText false hn _ _ hmem with h | h
        · exact absurd h (by decide)
        · exact absurd h (by decide)
    · intro h
      rw [if_pos ⟨hleast.2 h.large, hmost⟩, h.tie]

end Probe.Decimal
