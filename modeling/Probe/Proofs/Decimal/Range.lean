import Mathlib.Algebra.Order.Field.Power
import Mathlib.Algebra.Order.Field.Rat
import Mathlib.Tactic.Linarith
import Mathlib.Tactic.NormNum
import Mathlib.Tactic.Positivity
import Mathlib.Tactic.Ring
import Probe.Proofs.Decimal.Numeral

/-!
# The range of finite numbers

A decimal rounds to a finite number exactly if it is below `2 ^ 1024 - 2 ^ 970`, which is the middle between
the largest number and the power of two after it. Main statements:

* `le_roundQuotient_iff_of_even`: a rounded quotient reaches an even number from the middle below it on.
* `roundQuotient_eq_twoTo_iff`: when rounding needs one more binary digit.
* `Magnitude.isSome_nearest?_iff`, `Magnitude.isSome_ofDecimal?_iff`, `Numeral.isSome_finite?_iff`: what
  rounds to a finite number.
* `Magnitude.ofDecimal?_eq_zero`, `Numeral.finite?_of_small`: what rounds to zero.
* `Magnitude.value_shortest_lt`: the shortest decimal of a number is in the range.
-/

namespace Probe.Decimal

/-- The middle between the largest finite number and the power of two after it. -/
def overflowBound : ℚ := 2 ^ 1024 - 2 ^ 970

theorem twoTo_cast (n : Nat) : (twoTo n : ℚ) = 2 ^ n := by
  simp [twoTo]

theorem overflowBound_eq : overflowBound = (2 ^ 54 - 1) * 2 ^ 970 := by
  rw [overflowBound, sub_mul, ← pow_add, one_mul]

theorem two_pow_lt_overflowBound {k : Nat} (h : k ≤ 1023) : (2 : ℚ) ^ k < overflowBound := by
  have hpos : (0 : ℚ) < 2 ^ 970 := by positivity
  calc (2 : ℚ) ^ k ≤ 2 ^ (53 + 970) := pow_le_pow_right₀ one_le_two h
    _ = 2 ^ 53 * 2 ^ 970 := pow_add 2 53 970
    _ < (2 ^ 54 - 1) * 2 ^ 970 := mul_lt_mul_of_pos_right (by norm_num) hpos
    _ = overflowBound := overflowBound_eq.symm

theorem overflowBound_pos : 0 < overflowBound :=
  (pow_pos two_pos 0).trans (two_pow_lt_overflowBound (Nat.zero_le _))

/-- The middle as a number of units. -/
theorem overflowBound_mul_one : overflowBound * one = ((twoTo 54 - 1) * twoTo 2044 : Nat) := by
  have hone : (1 : Nat) ≤ twoTo 54 := twoTo_pos 54
  rw [overflowBound_eq, one, Nat.cast_mul, Nat.cast_sub hone, twoTo_cast, twoTo_cast, twoTo_cast, mul_assoc,
    ← pow_add, Nat.cast_one]

/-- It is below the numbers of 310 digits. -/
theorem overflowBound_le : overflowBound ≤ 10 ^ 309 := by
  have hpow : (2 : ℚ) ^ 1024 ≤ 10 ^ 309 := by exact_mod_cast (by decide +kernel : 2 ^ 1024 ≤ 10 ^ 309)
  have hpos : (0 : ℚ) < 2 ^ 970 := by positivity
  exact (sub_le_self _ hpos.le).trans hpow

/-! ## Rounding up to an even number -/

/-- Ties go to the even number, so that it is reached from the middle below it on. -/
theorem le_roundQuotient_iff_of_even {num den n : Nat} (hden : 0 < den) (heven : n % 2 = 0) :
    n ≤ roundQuotient num den ↔ 2 * n * den ≤ 2 * num + den := by
  obtain ⟨hlow, hhigh⟩ := roundQuotient_near num den hden
  constructor
  · intro hle
    calc 2 * n * den ≤ 2 * roundQuotient num den * den :=
          Nat.mul_le_mul_right den (Nat.mul_le_mul_left 2 hle)
      _ ≤ 2 * num + den := hhigh
  · intro hmiddle
    have hsplit : den * (num / den) + num % den = num := Nat.div_add_mod num den
    have hrest : num % den < den := Nat.mod_lt num hden
    rcases Nat.lt_or_ge (num / den) n with hlt | hge
    · -- The number is the next one, and the rest at least one half; at one half the floor is odd.
      have hstep : (num / den + 1) * den ≤ n * den := Nat.mul_le_mul_right den hlt
      rw [Nat.add_mul, Nat.mul_comm (num / den)] at hstep
      rw [Nat.mul_assoc] at hmiddle
      have hnext : n ≤ num / den + 1 := by
        by_contra hfar
        have hfar : (num / den + 2) * den ≤ n * den := Nat.mul_le_mul_right den (by omega)
        rw [Nat.add_mul, Nat.mul_comm (num / den)] at hfar
        omega
      have hup : den < 2 * (num % den) ∨ (2 * (num % den) = den ∧ num / den % 2 = 1) := by omega
      rw [roundQuotient, if_pos hup]
      exact hnext
    · exact hge.trans (div_le_roundQuotient num den)

/-- When a quotient is cut off to 53 binary digits, rounding carries into one more from the middle past the largest
such number on. -/
theorem roundQuotient_eq_twoTo_iff {num den k : Nat} (hden : 0 < den) (hshift : bitLength (num / den) - 53 = k + 1) :
    roundQuotient num (den * twoTo (k + 1)) = twoTo 53 ↔ (twoTo 54 - 1) * twoTo k ≤ num / den := by
  have hmost := roundQuotient_le num den
  rw [hshift] at hmost
  have hfull : roundQuotient num (den * twoTo (k + 1)) = twoTo 53 ↔
      twoTo 53 ≤ roundQuotient num (den * twoTo (k + 1)) := ⟨Eq.ge, hmost.antisymm⟩
  have hreach : twoTo 53 ≤ roundQuotient num (den * twoTo (k + 1)) ↔
      2 * twoTo 53 * (den * twoTo (k + 1)) ≤ 2 * num + den * twoTo (k + 1) :=
    le_roundQuotient_iff_of_even (Nat.mul_pos hden (twoTo_pos _)) rfl
  have hpower : den * twoTo (k + 1) = 2 * (twoTo k * den) := by
    rw [twoTo_succ, Nat.mul_comm (twoTo k) 2, Nat.mul_left_comm, Nat.mul_comm den]
  rw [hfull, hreach, hpower, Nat.le_div_iff_mul_le hden, Nat.mul_assoc (twoTo 54 - 1)]
  rw [show twoTo 53 = 9007199254740992 from rfl, show twoTo 54 = 18014398509481984 from rfl]
  omega

namespace Magnitude

/-- What is less than the middle past the largest number, and nothing else, rounds to a finite number. -/
theorem isSome_nearest?_iff {num den : Nat} (hden : 0 < den) :
    (nearest? num den).isSome = true ↔ num < (twoTo 54 - 1) * twoTo 2044 * den := by
  have hlt := lt_twoTo_bitLength (num / den)
  have hge : ∀ k < bitLength (num / den), twoTo k ≤ num / den := fun k => twoTo_le_of_bitLength
  simp only [nearest?]
  generalize hshift : bitLength (num / den) - 53 = shift
  rw [← Nat.div_lt_iff_lt_mul hden]
  rcases Nat.lt_trichotomy shift 2045 with hless | rfl | hmore
  · -- With a smaller shift there is room for a carry.
    have hsmall : num / den < (twoTo 54 - 1) * twoTo 2044 := by
      calc num / den < twoTo (bitLength (num / den)) := hlt
        _ ≤ twoTo (53 + 2044) := twoTo_le (by omega)
        _ = twoTo 53 * twoTo 2044 := twoTo_add 53 2044
        _ ≤ (twoTo 54 - 1) * twoTo 2044 := Nat.mul_le_mul_right _ (by decide)
    refine iff_of_true ?_ hsmall
    split <;> rw [if_pos (by simp only; omega)] <;> rfl
  · -- With the largest one there is none, so that only numbers below the middle are left.
    have hcarry := roundQuotient_eq_twoTo_iff hden hshift
    by_cases hfull : roundQuotient num (den * twoTo 2045) = twoTo 53
    · rw [if_pos hfull]
      exact iff_of_false (by simp) (hcarry.1 hfull).not_gt
    · rw [if_neg hfull]
      exact iff_of_true rfl (not_le.1 (mt hcarry.2 hfull))
  · have hlarge : (twoTo 54 - 1) * twoTo 2044 ≤ num / den := by
      calc (twoTo 54 - 1) * twoTo 2044 ≤ twoTo 54 * twoTo 2044 := Nat.mul_le_mul_right _ (Nat.sub_le _ _)
        _ = twoTo (54 + 2044) := (twoTo_add 54 2044).symm
        _ ≤ num / den := hge _ (by omega)
    refine iff_of_false ?_ hlarge.not_gt
    split <;> rw [if_neg (by simp only; omega)] <;> simp

/-- A quotient that is so many units is a finite number exactly if it is below the middle. -/
theorem isSome_nearest?_iff_lt {num den : Nat} {q : ℚ} (hden : 0 < den) (hq : (num : ℚ) / den = q * one) :
    (nearest? num den).isSome = true ↔ q < overflowBound := by
  have hdenCast : (0 : ℚ) < den := Nat.cast_pos.2 hden
  rw [isSome_nearest?_iff hden, ← mul_lt_mul_iff_left₀ one_cast_pos, ← hq, overflowBound_mul_one,
    div_lt_iff₀ hdenCast]
  exact_mod_cast Iff.rfl

/-- A decimal is rounded as a quotient of natural numbers, whatever the sign of its exponent. -/
theorem exists_nearest?_eq (digits : Nat) (e : Int) :
    ∃ num den : Nat, 0 < den ∧ (num : ℚ) / den = digits * 10 ^ e * one ∧
      (if 0 ≤ e then nearest? (digits * tenTo e.toNat * one) 1 else nearest? (digits * one) (tenTo (-e).toNat)) =
        nearest? num den := by
  by_cases he : 0 ≤ e
  · refine ⟨digits * tenTo e.toNat * one, 1, Nat.one_pos, ?_, if_pos he⟩
    rw [Nat.cast_one, div_one, Nat.cast_mul, Nat.cast_mul, tenTo_cast, ← zpow_natCast, Int.toNat_of_nonneg he]
  · refine ⟨digits * one, tenTo (-e).toNat, tenTo_pos _, ?_, if_neg he⟩
    rw [Nat.cast_mul, tenTo_cast, ← zpow_natCast, Int.toNat_of_nonneg (by omega), zpow_neg, div_inv_eq_mul,
      mul_right_comm]

/-- A decimal rounds to a finite number exactly if it is below the middle past the largest one. -/
theorem isSome_ofDecimal?_iff (d : Scientific) :
    (ofDecimal? d.digits d.exponent).isSome = true ↔ d.value < overflowBound := by
  obtain ⟨digits, e⟩ := d
  simp only [ofDecimal?, Scientific.value]
  by_cases hzero : digits = 0
  · rw [if_pos hzero, hzero, Nat.cast_zero, zero_mul]
    exact iff_of_true rfl overflowBound_pos
  · rw [if_neg hzero]
    have hpos := zpow_ten_pos e
    split
    · -- So many digits are past the middle, which has 309.
      next hlarge =>
        refine iff_of_false Bool.false_ne_true (not_lt.2 ?_)
        have hcount : 0 < digitCount digits := Nat.length_toDigits_pos
        calc overflowBound ≤ 10 ^ 309 := overflowBound_le
          _ ≤ (10 : ℚ) ^ ((digitCount digits - 1 : Nat) + e) := by
              rw [← zpow_natCast]
              exact zpow_le_zpow_right₀ (by norm_num) (by omega)
          _ = tenTo (digitCount digits - 1) * 10 ^ e := by
              rw [zpow_add₀ (by norm_num), zpow_natCast, tenTo_cast]
          _ ≤ digits * 10 ^ e :=
              mul_le_mul_of_nonneg_right (Nat.cast_le.2 (tenTo_le_of_digitCount hzero)) hpos.le
    · split
      · -- So small a number is rounded to zero.
        next hsmall =>
          refine iff_of_true rfl ?_
          calc digits * (10 : ℚ) ^ e ≤ tenTo (digitCount digits) * 10 ^ e :=
                mul_le_mul_of_nonneg_right (Nat.cast_le.2 (lt_tenTo_digitCount digits).le) hpos.le
            _ = 10 ^ ((digitCount digits : Int) + e) := by
                rw [zpow_add₀ (by norm_num), zpow_natCast, tenTo_cast]
            _ ≤ 2 ^ 0 := zpow_le_one_of_nonpos₀ (by norm_num) (by omega)
            _ < overflowBound := two_pow_lt_overflowBound (Nat.zero_le _)
      · obtain ⟨num, den, hden, hq, hround⟩ := exists_nearest?_eq digits e
        rw [hround]
        exact isSome_nearest?_iff_lt hden hq

/-! ## Rounding to zero -/

/-- What is at most one half of a unit is rounded to zero; on the tie zero is the even number. -/
theorem nearest?_eq_zero {num den : Nat} (hden : 0 < den) (h : 2 * num ≤ den) : nearest? num den = some zero := by
  have hquotient : num / den = 0 := Nat.div_eq_of_lt (by omega)
  have hrest : num % den = num := Nat.mod_eq_of_lt (by omega)
  have hround : roundQuotient num den = 0 := by
    have hdown : ¬ (den < 2 * (num % den) ∨ (2 * (num % den) = den ∧ num / den % 2 = 1)) := by omega
    rw [roundQuotient, if_neg hdown, hquotient]
  have hshift : bitLength (num / den) - 53 = 0 := by
    rw [hquotient]
    rfl
  have hone : den * twoTo 0 = den := Nat.mul_one den
  simp only [nearest?, hshift, hone, hround]
  rfl

theorem nearest?_eq_zero_of_le {num den : Nat} {q : ℚ} (hden : 0 < den) (hq : (num : ℚ) / den = q * one)
    (h : q ≤ 1 / 2 ^ 1075) : nearest? num den = some zero := by
  have hdenCast : (0 : ℚ) < den := Nat.cast_pos.2 hden
  have hhalf : (1 / 2 ^ 1075 : ℚ) * one = 1 / 2 := by
    rw [one, twoTo_cast, pow_succ]
    field_simp
  have hunits : (num : ℚ) / den ≤ 1 / 2 := by
    calc (num : ℚ) / den = q * one := hq
      _ ≤ 1 / 2 ^ 1075 * one := mul_le_mul_of_nonneg_right h one_cast_pos.le
      _ = 1 / 2 := hhalf
  refine nearest?_eq_zero hden ?_
  rw [div_le_iff₀ hdenCast] at hunits
  have hcast : ((2 * num : Nat) : ℚ) ≤ den := by
    push_cast
    linarith
  exact_mod_cast hcast

/-- A decimal of at most half of the smallest number is rounded to zero. -/
theorem ofDecimal?_eq_zero {d : Scientific} (h : d.value ≤ 1 / 2 ^ 1075) :
    ofDecimal? d.digits d.exponent = some zero := by
  have hbelow : d.value < overflowBound := by
    calc d.value ≤ 1 / 2 ^ 1075 := h
      _ ≤ 2 ^ 0 := div_le_one_of_le₀ (one_le_pow₀ one_le_two) (by positivity)
      _ < overflowBound := two_pow_lt_overflowBound (Nat.zero_le _)
  have hfinite := (isSome_ofDecimal?_iff d).2 hbelow
  obtain ⟨digits, e⟩ := d
  simp only [ofDecimal?, Scientific.value] at hfinite h ⊢
  split
  · rfl
  · next hzero =>
    rw [if_neg hzero] at hfinite
    split
    · -- So large a decimal is none of the finite ones.
      next hlarge =>
        rw [if_pos hlarge] at hfinite
        cases hfinite
    · split
      · rfl
      · obtain ⟨num, den, hden, hq, hround⟩ := exists_nearest?_eq digits e
        rw [hround]
        exact nearest?_eq_zero_of_le hden hq h

/-! ## The shortest decimal of a number -/

variable {m : Magnitude} {d : Scientific}

theorem gap_le (hm : m.WellFormed) : m.gap ≤ 2 ^ 971 := by
  have hshift : twoTo m.shift ≤ twoTo (971 + 1074) := twoTo_le hm.shift_le
  rw [gap, div_le_iff₀ one_cast_pos, one, twoTo_cast 1074, ← pow_add, ← twoTo_cast]
  exact_mod_cast hshift

/-- A decimal that reads back as a number with an odd mantissa is less than half a gap above it. -/
theorem lt_of_readsBack_of_odd (hodd : m.mantissa % 2 = 1) (h : m.readsBack d = true) :
    d.value < m.value + m.gap / 2 := by
  have hhigh : compareQuarters d.digits d.exponent m.upperQuarters = .lt := by
    simp only [readsBack, hodd, Bool.and_eq_true, Bool.or_eq_true, beq_iff_eq] at h
    simpa using h.2
  rw [← upperQuarters_eq, Scientific.value]
  exact (compareQuarters_iff _ _ _).1.1 hhigh

/-- No decimal past the range reads back as a number. -/
theorem value_lt_of_readsBack (hm : m.WellFormed) (h : m.readsBack d = true) : d.value < overflowBound := by
  have hgap : m.gap / 2 ≤ 2 ^ 970 := by
    rw [div_le_iff₀ two_pos, ← pow_succ]
    exact gap_le hm
  have hpos : 0 < m.gap / 2 := half_pos m.gap_pos
  have hend : m.value + m.gap / 2 = ((2 * m.mantissa + 1 : Nat) : ℚ) * (m.gap / 2) := by
    rw [value_eq]
    push_cast
    ring
  have hbound : overflowBound = ((twoTo 54 - 1 : Nat) : ℚ) * 2 ^ 970 := by
    rw [overflowBound_eq, Nat.cast_sub (twoTo_pos 54), twoTo_cast, Nat.cast_one]
  have hmantissa := hm.mantissa_lt
  rw [show twoTo 53 = 9007199254740992 from rfl] at hmantissa
  rw [show twoTo 54 - 1 = 18014398509481983 from rfl] at hbound
  -- Only the largest number ends at the bound, and its interval is open since its mantissa is odd.
  by_cases hodd : m.mantissa % 2 = 1
  · have hle : 2 * m.mantissa + 1 ≤ 18014398509481983 := by omega
    calc d.value < m.value + m.gap / 2 := lt_of_readsBack_of_odd hodd h
      _ = ((2 * m.mantissa + 1 : Nat) : ℚ) * (m.gap / 2) := hend
      _ ≤ (18014398509481983 : Nat) * 2 ^ 970 :=
          mul_le_mul (Nat.cast_le.2 hle) hgap hpos.le (Nat.cast_nonneg _)
      _ = overflowBound := hbound.symm
  · have hlt : 2 * m.mantissa + 1 < 18014398509481983 := by omega
    calc d.value ≤ m.value + m.gap / 2 := (near_of_readsBack h).2
      _ = ((2 * m.mantissa + 1 : Nat) : ℚ) * (m.gap / 2) := hend
      _ < (18014398509481983 : Nat) * (m.gap / 2) := mul_lt_mul_of_pos_right (Nat.cast_lt.2 hlt) hpos
      _ ≤ (18014398509481983 : Nat) * 2 ^ 970 := mul_le_mul_of_nonneg_left hgap (Nat.cast_nonneg _)
      _ = overflowBound := hbound.symm

/-- The shortest decimal of a number rounds to a finite number. -/
theorem value_shortest_lt (hm : m.WellFormed) (tie : Tie) : (m.shortest tie).value < overflowBound := by
  cases hz : m.isZero with
  | true =>
      rw [shortest, hz, if_pos rfl, Scientific.value, Nat.cast_zero, zero_mul]
      exact overflowBound_pos
  | false =>
      obtain ⟨e, -, -, hshortest, -⟩ := exists_grid hm hz
      exact value_lt_of_readsBack hm (hshortest tie).readsBack

end Magnitude

/-- A literal is finite exactly if it denotes less than the middle past the largest number. -/
theorem Literal.isSome_finite?_iff (l : Literal) :
    l.finite?.isSome = true ↔ l.decimal.value < overflowBound := by
  rw [finite?, Option.isSome_map]
  exact Magnitude.isSome_ofDecimal?_iff l.decimal

namespace Numeral

variable (n : Numeral)

/-- A numeral rounds to a finite number exactly if its own number is in the range. -/
theorem isSome_finite?_iff : n.literal.finite?.isSome = true ↔ |n.value| < overflowBound := by
  rw [abs_value]
  exact n.literal.isSome_finite?_iff

/-- A numeral of a number that is small enough is a zero of its sign. -/
theorem finite?_of_small (h : |n.value| ≤ 1 / 2 ^ 1075) :
    n.literal.finite? = some ⟨n.sign.isMinus, .zero⟩ := by
  rw [abs_value] at h
  have hzero := Magnitude.ofDecimal?_eq_zero h
  rw [Literal.finite?]
  exact congrArg _ hzero

end Numeral

end Probe.Decimal
