import Probe.Decimal.Literal

/-!
# What rounding leaves

A rounded magnitude has 53 binary digits at most, and not fewer unless it is one of the smallest. So the
magnitudes that come of arithmetic are in one form. Main statement: `wellFormed_of_nearest?`.
-/

namespace Probe.Decimal

theorem twoTo_le {a b : Nat} (h : a ≤ b) : twoTo a ≤ twoTo b := Nat.pow_le_pow_right (by decide) h

theorem twoTo_add (a b : Nat) : twoTo (a + b) = twoTo a * twoTo b := Nat.pow_add 2 a b

theorem lt_twoTo_bitLength (n : Nat) : n < twoTo (bitLength n) := by
  unfold bitLength
  split
  · next h => rw [h]; decide
  · exact Nat.lt_log2_self

theorem twoTo_le_of_bitLength {n k : Nat} (h : k < bitLength n) : twoTo k ≤ n := by
  unfold bitLength at h
  split at h
  · exact absurd h (Nat.not_lt_zero k)
  · next hn => exact Nat.le_trans (twoTo_le (Nat.le_of_lt_succ h)) (Nat.log2_self_le hn)

/-- The rounded quotient is the whole one or the next. -/
theorem roundQuotient_cases (num den : Nat) :
    roundQuotient num den = num / den ∨ roundQuotient num den = num / den + 1 := by
  simp only [roundQuotient]
  split
  · exact .inr rfl
  · exact .inl rfl

/-- What is left of a quotient when it is cut off to 53 binary digits. -/
theorem quotient_lt (num den : Nat) : num / (den * twoTo (bitLength (num / den) - 53)) < twoTo 53 := by
  rw [← Nat.div_div_eq_div_mul]
  refine Nat.div_lt_of_lt_mul ?_
  rw [← twoTo_add]
  exact Nat.lt_of_lt_of_le (lt_twoTo_bitLength _) (twoTo_le (by omega))

/-- The rounded quotient may carry into one more binary digit, but not further. -/
theorem roundQuotient_le (num den : Nat) :
    roundQuotient num (den * twoTo (bitLength (num / den) - 53)) ≤ twoTo 53 := by
  have hlt := quotient_lt num den
  rcases roundQuotient_cases num (den * twoTo (bitLength (num / den) - 53)) with h | h <;> omega

namespace Magnitude

/-- The form that all magnitudes have: 53 binary digits at most, and not fewer if they are shifted. -/
structure WellFormed (m : Magnitude) : Prop where
  mantissa_lt : m.mantissa < twoTo 53
  le_mantissa : m.shift ≠ 0 → twoTo 52 ≤ m.mantissa
  shift_le : m.shift ≤ 2045

theorem wellFormed_zero : zero.WellFormed :=
  ⟨twoTo_pos 53, fun h => absurd rfl h, Nat.zero_le _⟩

theorem wellFormed_of_nearest? {num den : Nat} {m : Magnitude} (h : nearest? num den = some m) :
    m.WellFormed := by
  have hmost := roundQuotient_le num den
  unfold nearest? at h
  simp only at h
  generalize hshift : bitLength (num / den) - 53 = shift at h hmost
  have hle : shift ≠ 0 → twoTo 52 ≤ num / (den * twoTo shift) := by
    intro hne
    rw [← Nat.div_div_eq_div_mul, Nat.le_div_iff_mul_le (twoTo_pos shift), ← twoTo_add]
    exact twoTo_le_of_bitLength (by omega)
  have hcases := roundQuotient_cases num (den * twoTo shift)
  generalize roundQuotient num (den * twoTo shift) = mantissa at h hmost hcases
  -- Rounding up may carry into one more binary digit, which is then given to the shift.
  by_cases hfull : mantissa = twoTo 53
  · simp only [if_pos hfull] at h
    split at h
    · next hbound =>
        cases h
        exact ⟨show twoTo 52 < twoTo 53 by decide, fun _ => Nat.le_refl _, hbound⟩
    · cases h
  · simp only [if_neg hfull] at h
    split at h
    · next hbound =>
        cases h
        exact ⟨by simp only; omega, fun hne => by have := hle hne; simp only; omega, hbound⟩
    · cases h

theorem wellFormed_of_ofNat? {n : Nat} {m : Magnitude} (h : ofNat? n = some m) : m.WellFormed := by
  unfold ofNat? at h
  exact wellFormed_of_nearest? h

theorem wellFormed_of_mul? {a b m : Magnitude} (h : a.mul? b = some m) : m.WellFormed := by
  unfold mul? at h
  exact wellFormed_of_nearest? h

theorem wellFormed_of_div? {a b m : Magnitude} (h : a.div? b = some m) : m.WellFormed := by
  unfold div? at h
  exact wellFormed_of_nearest? h

end Magnitude

end Probe.Decimal
