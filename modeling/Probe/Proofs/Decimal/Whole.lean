import Mathlib.Data.Nat.Digits.Defs
import Probe.Decimal.Layout

/-!
# Texts of large whole numbers

Every natural number of 64 bits has a nearest 64-bit number. From `2 ^ 63` on that number has nineteen
digits at least, of which its text only keeps seventeen and puts zeros in place of the others. Main
statements:

* `Magnitude.exists_ofNat?`: the nearest number.
* `Magnitude.le_units_of_nearest?`: it is not much smaller.
* `plain_text_ne_toString`: a number of 64 bits that does not end with two zeros loses its text.
-/

namespace Probe.Decimal

theorem one_pos : 0 < one := twoTo_pos 1074

theorem mul_twoTo_lt (n a b : Nat) (h : n < twoTo a) : n * twoTo b < twoTo (a + b) := by
  have hsum : twoTo (a + b) = twoTo a * twoTo b := Nat.pow_add 2 a b
  rw [hsum]
  exact Nat.mul_lt_mul_of_pos_right h (twoTo_pos b)

theorem log2_lt_of_lt_twoTo (n k : Nat) (hn : n ≠ 0) (h : n < twoTo k) : n.log2 < k :=
  (Nat.log2_lt hn).2 h

theorem tenTo_add (a b : Nat) : tenTo (a + b) = tenTo a * tenTo b := Nat.pow_add 10 a b

/-! ## The nearest number -/

/-- A rounded quotient is not below the whole one. -/
theorem div_le_roundQuotient (num den : Nat) : num / den ≤ roundQuotient num den := by
  simp only [roundQuotient]
  split
  · exact Nat.le_succ _
  · exact Nat.le_refl _

namespace Magnitude

/-- What is left of the mantissa when it is cut off to 53 bits: the shift of a whole number of units. -/
def shiftOf (num : Nat) : Nat := bitLength num - 53

/-- Whole numbers of units are rounded at their 53rd bit. -/
theorem nearest?_one (num : Nat) :
    ∃ rounded : Magnitude, rounded.shift ≤ shiftOf num + 1 ∧
      rounded.units = roundQuotient num (twoTo (shiftOf num)) * twoTo (shiftOf num) ∧
      nearest? num 1 = if rounded.shift ≤ 2045 then some rounded else none := by
  have hshift : bitLength (num / 1) - 53 = shiftOf num := by rw [Nat.div_one]; rfl
  simp only [nearest?, hshift, Nat.one_mul]
  by_cases hfull : roundQuotient num (twoTo (shiftOf num)) = twoTo 53
  · refine ⟨⟨twoTo 52, shiftOf num + 1⟩, Nat.le_refl _, ?_, by rw [if_pos hfull]⟩
    rw [hfull]
    show twoTo 52 * (twoTo (shiftOf num) * 2) = twoTo 52 * 2 * twoTo (shiftOf num)
    rw [Nat.mul_comm (twoTo (shiftOf num)) 2, Nat.mul_assoc]
  · refine ⟨⟨roundQuotient num (twoTo (shiftOf num)), shiftOf num⟩, Nat.le_succ _, rfl, ?_⟩
    rw [if_neg hfull]

theorem twoTo_le_of_shiftOf (num : Nat) (h : twoTo 53 ≤ num) : 2 * twoTo (shiftOf num) ≤ num := by
  have hpos : num ≠ 0 := by
    have := twoTo_pos 53
    omega
  have hlog : 53 ≤ num.log2 := (Nat.le_log2 hpos).2 h
  have hshift : shiftOf num + 1 ≤ num.log2 := by
    rw [shiftOf, bitLength, if_neg hpos]
    omega
  calc 2 * twoTo (shiftOf num) = 2 ^ (shiftOf num + 1) := by rw [Nat.mul_comm]; rfl
    _ ≤ 2 ^ num.log2 := Nat.pow_le_pow_right (by decide) hshift
    _ ≤ num := Nat.log2_self_le hpos

/-- Rounding takes less than half of a number away. -/
theorem le_units_of_nearest? (num : Nat) (m : Magnitude) (hnum : twoTo 53 ≤ num)
    (h : nearest? num 1 = some m) : num ≤ 2 * m.units := by
  obtain ⟨rounded, -, hunits, hnearest⟩ := nearest?_one num
  have hm : m = rounded := by
    rw [hnearest] at h
    split at h
    · exact (Option.some.inj h).symm
    · cases h
  have hfloor : num / twoTo (shiftOf num) * twoTo (shiftOf num) ≤ m.units := by
    rw [hm, hunits]
    exact Nat.mul_le_mul_right _ (div_le_roundQuotient _ _)
  have hrest : num % twoTo (shiftOf num) < twoTo (shiftOf num) := Nat.mod_lt _ (twoTo_pos _)
  have hsplit : num / twoTo (shiftOf num) * twoTo (shiftOf num) + num % twoTo (shiftOf num) = num := by
    rw [Nat.mul_comm]
    exact Nat.div_add_mod num (twoTo (shiftOf num))
  have hshift := twoTo_le_of_shiftOf num hnum
  omega

/-- A natural number of 64 bits has a nearest number. -/
theorem exists_ofNat? (n : Nat) (h : n < twoTo 64) : ∃ m, ofNat? n = some m := by
  obtain ⟨rounded, hle, -, hnearest⟩ := nearest?_one (n * one)
  have hlength : bitLength (n * one) ≤ 1138 := by
    by_cases hzero : n * one = 0
    · rw [bitLength, if_pos hzero]
      exact Nat.zero_le _
    · have hlt : n * one < twoTo (64 + 1074) := mul_twoTo_lt n 64 1074 h
      rw [bitLength, if_neg hzero]
      exact log2_lt_of_lt_twoTo _ _ hzero hlt
  have hshift : rounded.shift ≤ 2045 := by
    rw [shiftOf] at hle
    omega
  exact ⟨rounded, by rw [ofNat?, hnearest, if_pos hshift]⟩

end Magnitude

/-! ## Its digits -/

theorem lt_digitCount (j n : Nat) (h : tenTo j ≤ n) : j < Magnitude.digitCount n := by
  cases j with
  | zero => exact Nat.length_toDigits_pos
  | succ j =>
      by_contra hle
      have hlt : n < tenTo (j + 1) :=
        (Nat.length_toDigits_le_iff (by decide) (Nat.succ_pos j)).1 (Nat.not_lt.1 hle)
      omega

namespace Magnitude

/-- From `2 ^ 63` on the nearest number has nineteen digits before its point. -/
theorem le_wholeDigits_of_ofNat? (n : Nat) (m : Magnitude) (hn : twoTo 63 ≤ n)
    (h : ofNat? n = some m) : 19 ≤ m.wholeDigits := by
  have hone : 1 ≤ one := one_pos
  have hlarge : twoTo 53 ≤ n * one :=
    calc twoTo 53 ≤ twoTo 63 := by decide
      _ ≤ n := hn
      _ = n * 1 := (Nat.mul_one n).symm
      _ ≤ n * one := Nat.mul_le_mul_left n hone
  have hunits := le_units_of_nearest? (n * one) m hlarge h
  have hten : tenTo 18 * one ≤ m.units := by
    have hhalf : 2 * tenTo 18 ≤ n := Nat.le_trans (by decide) hn
    have := Nat.mul_le_mul_right one hhalf
    rw [Nat.mul_assoc] at this
    omega
  have hdigits : 418 < digitCount (m.units * tenTo 400 / one) := by
    refine lt_digitCount 418 _ ((Nat.le_div_iff_mul_le one_pos).2 ?_)
    calc tenTo 418 * one = tenTo 18 * one * tenTo 400 := by
          rw [show 418 = 18 + 400 from rfl, tenTo_add, Nat.mul_right_comm]
      _ ≤ m.units * tenTo 400 := Nat.mul_le_mul_right _ hten
  rw [wholeDigits]
  omega

theorem exponent_of_onGrid? (tie : Tie) (m : Magnitude) (e : Int) (d : Scientific)
    (h : m.onGrid? tie e = some d) : d.exponent = e := by
  unfold onGrid? at h
  split at h
  · cases h; rfl
  · split at h
    · cases h; rfl
    · cases h

/-- Of more digits the shortest decimal keeps seventeen at most. -/
theorem le_exponent_of_search? (tie : Tie) (m : Magnitude) (d : Scientific)
    (h : m.search? tie = some d) : m.wholeDigits - 17 ≤ d.exponent := by
  obtain ⟨i, hi, hgrid⟩ := List.exists_of_findSome?_eq_some h
  have hlt := List.mem_range.1 hi
  rw [exponent_of_onGrid? tie m _ d hgrid]
  omega

end Magnitude

/-- The shortest decimal of such a number is followed by two zeros at least, or nothing was found. -/
theorem shortest_of_ofNat? (tie : Tie) (n : Nat) (m : Magnitude) (hn : twoTo 63 ≤ n)
    (h : Magnitude.ofNat? n = some m) : m.shortest tie = ⟨0, 0⟩ ∨ 2 ≤ (m.shortest tie).exponent := by
  unfold Magnitude.shortest
  split
  · exact .inl rfl
  · cases hsearch : m.search? tie with
    | none => exact .inl rfl
    | some d =>
        have hwhole := Magnitude.le_wholeDigits_of_ofNat? n m hn h
        have hexponent := Magnitude.le_exponent_of_search? tie m d hsearch
        refine .inr ?_
        rw [Option.getD_some]
        omega

/-! ## Its text -/

/-- A text that ends with two zeros. -/
def EndsWithZeros (s : List Char) : Prop :=
  ∃ front, s = front ++ ['0', '0']

theorem endsWithZeros_append_zeros (digits : List Char) (n : Nat) (h : 2 ≤ n) :
    EndsWithZeros (digits ++ zeros n) := by
  obtain ⟨k, rfl⟩ := Nat.exists_eq_add_of_le' h
  refine ⟨digits ++ zeros k, ?_⟩
  rw [zeros, ← List.replicate_append_replicate, ← List.append_assoc]
  rfl

/-- A decimal that is zero is written with one digit; one with an exponent of two or more ends with two
zeros. -/
theorem positionalText_significant (d : Scientific) (h : 2 ≤ d.exponent) :
    positionalText false (significant d).1 (significant d).2 = ['0'] ∨
      EndsWithZeros (positionalText false (significant d).1 (significant d).2) := by
  unfold significant
  simp only
  split
  · exact .inl rfl
  · refine .inr ?_
    generalize (((Nat.toDigits 10 d.digits).reverse.dropWhile (· == '0')).reverse) = kept
    generalize hexponent : d.exponent + ((Nat.toDigits 10 d.digits).length - kept.length : Nat) = e
    have he : 2 ≤ e := by omega
    rw [positionalText, if_pos (by omega)]
    simp only [Bool.false_eq_true, ↓reduceIte, List.append_nil]
    exact endsWithZeros_append_zeros kept e.toNat (by omega)

theorem plain_magnitudeText (n : Nat) (m : Magnitude) (hn : twoTo 63 ≤ n)
    (h : Magnitude.ofNat? n = some m) :
    plain.magnitudeText m = ['0'] ∨ EndsWithZeros (plain.magnitudeText m) := by
  have htext : plain.magnitudeText m =
      positionalText false (significant (m.shortest .up)).1 (significant (m.shortest .up)).2 := rfl
  rw [htext]
  rcases shortest_of_ofNat? .up n m hn h with hzero | hexponent
  · rw [hzero]
    exact .inl (by decide)
  · exact positionalText_significant _ hexponent

theorem digitChar_eq_zero (d : Nat) (hd : d < 10) (h : Nat.digitChar d = '0') : d = 0 := by
  revert h
  revert d
  decide

/-- Only multiples of a hundred end with two zeros. -/
theorem mod_of_endsWithZeros (n : Nat) (hn : 100 ≤ n) (h : EndsWithZeros (Nat.toDigits 10 n)) :
    n % 100 = 0 := by
  obtain ⟨front, hfront⟩ := h
  have hdigits : Nat.toDigits 10 n =
      Nat.toDigits 10 (n / 10 / 10) ++ [Nat.digitChar (n / 10 % 10), Nat.digitChar (n % 10)] := by
    rw [Nat.toDigits_of_base_le (by decide) (by omega : 10 ≤ n),
      Nat.toDigits_of_base_le (by decide) (by omega : 10 ≤ n / 10), List.append_assoc]
    rfl
  rw [hdigits] at hfront
  obtain ⟨-, hlast⟩ := List.append_inj' hfront rfl
  obtain ⟨htens, hrest⟩ := List.cons.inj hlast
  obtain ⟨hunits, -⟩ := List.cons.inj hrest
  have h1 := digitChar_eq_zero (n / 10 % 10) (Nat.mod_lt _ (by decide)) htens
  have h2 := digitChar_eq_zero (n % 10) (Nat.mod_lt _ (by decide)) hunits
  omega

/-- From `2 ^ 63` on a number that does not end with two zeros is not written as it is. -/
theorem plain_text_ne_toString (n : Nat) (m : Magnitude) (hn : twoTo 63 ≤ n)
    (h : Magnitude.ofNat? n = some m) (hmod : n % 100 ≠ 0) :
    plain.text ⟨false, m⟩ ≠ toString n := by
  have hlarge : 100 ≤ n := Nat.le_trans (by decide) hn
  intro heq
  rw [Nat.toString_eq_ofList_toDigits] at heq
  have htext : plain.magnitudeText m = Nat.toDigits 10 n := String.ofList_injective heq
  rcases plain_magnitudeText n m hn h with hzero | hends
  · have hlength : 2 < (Nat.toDigits 10 n).length := lt_digitCount 2 n hlarge
    rw [← htext, hzero] at hlength
    exact absurd hlength (by decide)
  · rw [htext] at hends
    exact hmod (mod_of_endsWithZeros n hlarge hends)

end Probe.Decimal
