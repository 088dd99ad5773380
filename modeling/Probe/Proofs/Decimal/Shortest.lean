import Mathlib.Algebra.Order.Field.Power
import Mathlib.Algebra.Order.Field.Rat
import Mathlib.Algebra.Order.Floor.Semifield
import Mathlib.Data.Nat.Find
import Mathlib.Data.Rat.Floor
import Mathlib.Tactic.FieldSimp
import Mathlib.Tactic.Linarith
import Mathlib.Tactic.NormNum
import Mathlib.Tactic.Positivity
import Mathlib.Tactic.Ring
import Probe.Proofs.Decimal.Digits
import Probe.Proofs.Decimal.Rounding

/-!
# The shortest decimal of a number

Every 64-bit number has decimals of seventeen digits that round to it, so that the search for a shortest one
finds one. Main statements:

* `readsBack_of_near`, `near_of_readsBack`: decimals that round to a number are near to it, and the other way
  round.
* `exists_grid`: the search ends, and on the coarsest grid that has a decimal.
* `exponent_nonneg_of_isWhole`, `value_ne_of_not_isWhole`: whether the shortest decimal has a fraction.
* `value_lt_of_small`, `le_value_of_large`: on which side of `1e-5` it is.
-/

namespace Probe.Decimal

/-- The number that a decimal denotes. -/
def Scientific.value (d : Scientific) : ℚ := d.digits * 10 ^ d.exponent

theorem tenTo_cast (n : Nat) : (tenTo n : ℚ) = 10 ^ n := by
  simp [tenTo]

theorem one_cast_pos : (0 : ℚ) < one := Nat.cast_pos.2 one_pos

theorem twoTo_dvd {a b : Nat} (h : a ≤ b) : twoTo a ∣ twoTo b := Nat.pow_dvd_pow 2 h

theorem twoTo_mul_twoTo {n : Nat} (h : n ≤ 1074) : twoTo n * twoTo (1074 - n) = one := by
  rw [one, ← Nat.add_sub_cancel' h, Nat.add_sub_cancel_left]
  exact (Nat.pow_add 2 n _).symm

theorem zpow_ten_pos (e : Int) : (0 : ℚ) < 10 ^ e := zpow_pos (by norm_num) e

theorem tenTo_div_tenTo (e : Int) : (tenTo e.toNat : ℚ) / tenTo (-e).toNat = 10 ^ e := by
  rw [tenTo_cast, tenTo_cast]
  rcases le_total 0 e with he | he
  · rw [Int.toNat_of_nonpos (Int.neg_nonpos_of_nonneg he), pow_zero, div_one, ← zpow_natCast,
      Int.toNat_of_nonneg he]
  · rw [Int.toNat_of_nonpos he, pow_zero, ← zpow_natCast, Int.toNat_of_nonneg (by omega), zpow_neg, one_div,
      inv_inv]

/-- The comparison with quarters of a unit is exact. -/
theorem compareQuarters_iff (a : Nat) (e : Int) (n : Nat) :
    (compareQuarters a e n = .lt ↔ (a : ℚ) * 10 ^ e < n / (4 * one)) ∧
      (compareQuarters a e n = .gt ↔ (n : ℚ) / (4 * one) < a * 10 ^ e) := by
  have hone : (0 : ℚ) < 4 * one := by have := one_cast_pos; positivity
  have hten : (0 : ℚ) < tenTo (-e).toNat := Nat.cast_pos.2 (tenTo_pos _)
  rw [compareQuarters, Nat.compare_eq_lt, Nat.compare_eq_gt, ← tenTo_div_tenTo, ← mul_div_assoc,
    div_lt_div_iff₀ hten hone, div_lt_div_iff₀ hone hten]
  constructor <;> exact_mod_cast Iff.rfl

namespace Magnitude

/-- The number that a magnitude is. -/
def value (m : Magnitude) : ℚ := m.units / one

/-- The distance of a magnitude from the next larger one. -/
def gap (m : Magnitude) : ℚ := twoTo m.shift / one

variable {m : Magnitude} {d : Scientific}

theorem value_eq (m : Magnitude) : m.value = m.mantissa * m.gap := by
  rw [value, gap, units, Nat.cast_mul, mul_div_assoc]

theorem gap_pos (m : Magnitude) : 0 < m.gap :=
  div_pos (Nat.cast_pos.2 (twoTo_pos _)) one_cast_pos

theorem mantissa_pos (hz : m.isZero = false) : 0 < m.mantissa :=
  Nat.pos_of_ne_zero (by simpa [isZero] using hz)

theorem value_pos (hz : m.isZero = false) : 0 < m.value := by
  rw [value_eq]
  exact mul_pos (Nat.cast_pos.2 (mantissa_pos hz)) m.gap_pos

/-! ## The interval of decimals that read back -/

/-- A number of quarters of the gap. -/
theorem quarters_eq (m : Magnitude) (n : Nat) :
    ((n * twoTo m.shift : Nat) : ℚ) / (4 * one) = n * m.gap / 4 := by
  have := one_cast_pos
  rw [gap, Nat.cast_mul]
  field_simp

theorem upperQuarters_eq (m : Magnitude) : (m.upperQuarters : ℚ) / (4 * one) = m.value + m.gap / 2 := by
  rw [upperQuarters, quarters_eq, value_eq]
  push_cast
  ring

theorem le_lowerQuarters (m : Magnitude) : m.value - m.gap / 2 ≤ (m.lowerQuarters : ℚ) / (4 * one) := by
  rw [lowerQuarters, quarters_eq, value_eq]
  generalize hc : (if m.mantissa = twoTo 52 ∧ m.shift ≠ 0 then 1 else 2) = c
  have hle : c ≤ 2 := by subst hc; split <;> decide
  have hsub : 4 * m.mantissa ≤ (4 * m.mantissa - c) + 2 := by omega
  have hcast : (4 * m.mantissa : ℚ) ≤ (4 * m.mantissa - c : Nat) + 2 := by exact_mod_cast hsub
  have := mul_le_mul_of_nonneg_right hcast m.gap_pos.le
  linarith

/-- What is left of a magnitude when a small part of it is taken away is inside its interval. -/
theorem lowerQuarters_le (hm : m.WellFormed) (hz : m.isZero = false) :
    (m.lowerQuarters : ℚ) / (4 * one) ≤ m.value - m.value / 2 ^ 54 := by
  have hpos := mantissa_pos hz
  have hlt : (m.mantissa : ℚ) ≤ 2 ^ 53 := by exact_mod_cast hm.mantissa_lt.le
  have hgap := m.gap_pos
  rw [lowerQuarters, quarters_eq, value_eq]
  split
  · next hpower =>
      have hcast : ((4 * m.mantissa - 1 : Nat) : ℚ) = 4 * 2 ^ 52 - 1 := by
        rw [hpower.1]
        norm_num [twoTo]
      have hmantissa : (m.mantissa : ℚ) = 2 ^ 52 := by
        rw [hpower.1]
        norm_num [twoTo]
      rw [hcast, hmantissa]
      apply le_of_eq
      ring
  · have hcast : ((4 * m.mantissa - 2 : Nat) : ℚ) = 4 * m.mantissa - 2 := by
      rw [Nat.cast_sub (by omega)]
      push_cast
      rfl
    have := mul_le_mul_of_nonneg_right hlt hgap.le
    rw [hcast]
    linarith

theorem lt_upperQuarters (hm : m.WellFormed) :
    m.value + m.value / 2 ^ 54 < (m.upperQuarters : ℚ) / (4 * one) := by
  have hlt : (m.mantissa : ℚ) < 2 ^ 53 := by exact_mod_cast hm.mantissa_lt
  have := mul_lt_mul_of_pos_right hlt m.gap_pos
  rw [upperQuarters_eq, value_eq]
  linarith

/-- A decimal that is near to a magnitude reads back. -/
theorem readsBack_of_near (hm : m.WellFormed) (hz : m.isZero = false)
    (hlow : m.value - d.value < m.value / 2 ^ 54) (hhigh : d.value - m.value < m.value / 2 ^ 54) :
    m.readsBack d = true := by
  have hl := lowerQuarters_le hm hz
  have hu := lt_upperQuarters hm
  have hgt : compareQuarters d.digits d.exponent m.lowerQuarters = .gt :=
    (compareQuarters_iff _ _ _).2.2 (by rw [← Scientific.value]; linarith)
  have hlt : compareQuarters d.digits d.exponent m.upperQuarters = .lt :=
    (compareQuarters_iff _ _ _).1.2 (by rw [← Scientific.value]; linarith)
  simp [readsBack, hgt, hlt]

/-- A decimal that reads back is at most half a gap away. -/
theorem near_of_readsBack (h : m.readsBack d = true) :
    m.value - m.gap / 2 ≤ d.value ∧ d.value ≤ m.value + m.gap / 2 := by
  simp only [readsBack, Bool.and_eq_true, Bool.or_eq_true, beq_iff_eq] at h
  obtain ⟨hlow, hhigh⟩ := h
  constructor
  · refine (le_lowerQuarters m).trans (not_lt.1 fun hlt => ?_)
    rw [Scientific.value, ← (compareQuarters_iff _ _ _).1] at hlt
    rw [hlt] at hlow
    rcases hlow with hlow | ⟨-, hlow⟩ <;> cases hlow
  · refine (not_lt.1 fun hlt => ?_).trans (upperQuarters_eq m).le
    rw [Scientific.value, ← (compareQuarters_iff _ _ _).2] at hlt
    rw [hlt] at hhigh
    rcases hhigh with hhigh | ⟨-, hhigh⟩ <;> cases hhigh

/-! ## The grids -/

theorem stepsBelow_eq (m : Magnitude) (e : Int) : m.stepsBelow e = ⌊m.value / 10 ^ e⌋₊ := by
  rw [stepsBelow, ← Nat.floor_div_eq_div (K := ℚ), ← tenTo_div_tenTo, value, div_div_div_eq]
  push_cast
  rfl

theorem stepsBelow_mul_le (m : Magnitude) (e : Int) : m.stepsBelow e * (10 : ℚ) ^ e ≤ m.value := by
  have hnonneg : 0 ≤ m.value / 10 ^ e := div_nonneg (div_nonneg (Nat.cast_nonneg _) one_cast_pos.le)
    (zpow_ten_pos e).le
  have := Nat.floor_le hnonneg
  rwa [← stepsBelow_eq, le_div_iff₀ (zpow_ten_pos e)] at this

theorem lt_stepsBelow_mul (m : Magnitude) (e : Int) : m.value < (m.stepsBelow e + 1) * (10 : ℚ) ^ e := by
  have := Nat.lt_floor_add_one (m.value / 10 ^ e)
  rwa [← stepsBelow_eq, div_lt_iff₀ (zpow_ten_pos e)] at this

/-- A magnitude has its number of digits before the point. -/
theorem wholeDigits_bounds (hz : m.isZero = false) :
    (10 : ℚ) ^ (m.wholeDigits - 1) ≤ m.value ∧ m.value < 10 ^ m.wholeDigits := by
  have hone := one_cast_pos
  have hunits : 1 ≤ m.units := Nat.mul_pos (mantissa_pos hz) (twoTo_pos _)
  have hfloor : m.units * tenTo 400 / one = ⌊m.value * 10 ^ 400⌋₊ := by
    rw [← Nat.floor_div_eq_div (K := ℚ), value, Nat.cast_mul, tenTo_cast, mul_div_right_comm]
  -- Even a single unit leaves digits to count.
  have hlarge : m.units * tenTo 400 / one ≠ 0 := by
    refine Nat.ne_of_gt (Nat.div_pos ?_ one_pos)
    calc one ≤ 1 * tenTo 400 := by decide +kernel
      _ ≤ m.units * tenTo 400 := Nat.mul_le_mul_right _ hunits
  have hlow := tenTo_le_of_digitCount hlarge
  have hhigh := lt_tenTo_digitCount (m.units * tenTo 400 / one)
  have hcount : 0 < digitCount (m.units * tenTo 400 / one) := Nat.length_toDigits_pos
  rw [wholeDigits]
  generalize digitCount (m.units * tenTo 400 / one) = k at hlow hhigh hcount ⊢
  have hten : (0 : ℚ) < 10 ^ 400 := by positivity
  have hnonneg : 0 ≤ m.value * 10 ^ 400 := (mul_pos (value_pos hz) hten).le
  rw [hfloor, Nat.le_floor_iff hnonneg, tenTo_cast] at hlow
  rw [hfloor, Nat.floor_lt hnonneg, tenTo_cast] at hhigh
  constructor
  · rw [show (k : Int) - 400 - 1 = ((k - 1 : Nat) : Int) - (400 : Nat) by omega, zpow_sub₀ (by norm_num),
      zpow_natCast, zpow_natCast, div_le_iff₀ hten]
    exact hlow
  · rw [show (k : Int) - 400 = (k : Int) - (400 : Nat) by rfl, zpow_sub₀ (by norm_num), zpow_natCast,
      zpow_natCast, lt_div_iff₀ hten]
    exact hhigh

/-- A decimal on the grid of `10 ^ e` next to a magnitude that reads back as it. -/
structure Candidate (m : Magnitude) (e : Int) (d : Scientific) : Prop where
  exponent_eq : d.exponent = e
  digits_eq : d.digits = m.stepsBelow e ∨ d.digits = m.stepsBelow e + 1
  readsBack : m.readsBack d = true

theorem candidate_of_onGrid? {tie : Tie} {e : Int} (h : m.onGrid? tie e = some d) : m.Candidate e d := by
  unfold onGrid? at h
  split at h
  · next hb => cases h; exact ⟨rfl, .inl rfl, hb.1⟩
  · split at h
    · next ha => cases h; exact ⟨rfl, .inr rfl, ha⟩
    · cases h

theorem exists_onGrid? (tie : Tie) {e : Int} (h : m.Candidate e d) : ∃ d', m.onGrid? tie e = some d' := by
  unfold onGrid?
  by_cases hb : m.readsBack ⟨m.stepsBelow e, e⟩ ∧
      (m.readsBack ⟨m.stepsBelow e + 1, e⟩ → m.takesLower tie e)
  · exact ⟨_, if_pos hb⟩
  · rw [if_neg hb]
    by_cases ha : m.readsBack ⟨m.stepsBelow e + 1, e⟩
    · exact ⟨_, if_pos ha⟩
    · -- The candidate is the lower neighbour, which is only left out in favour of the other one.
      obtain ⟨digits, exponent⟩ := d
      have hreads := h.readsBack
      obtain rfl : exponent = e := h.exponent_eq
      rcases h.digits_eq with hd | hd
      · obtain rfl : digits = m.stepsBelow exponent := hd
        exact absurd ⟨hreads, fun h => absurd h ha⟩ hb
      · obtain rfl : digits = m.stepsBelow exponent + 1 := hd
        exact absurd hreads ha

/-- On a grid of seventeen digits one of the neighbours of a magnitude reads back. -/
theorem exists_candidate (hm : m.WellFormed) (hz : m.isZero = false) :
    ∃ d, m.Candidate (m.wholeDigits - 17) d := by
  obtain ⟨hwhole, -⟩ := wholeDigits_bounds hz
  generalize he : m.wholeDigits - 17 = e
  have hlow := m.stepsBelow_mul_le e
  have hhigh := m.lt_stepsBelow_mul e
  -- Half a step of the grid is a smaller part of the magnitude than what rounding takes away.
  have hstep : (10 : ℚ) ^ e * 10 ^ 16 ≤ m.value := by
    rw [← he, show m.wholeDigits - 17 = (m.wholeDigits - 1) - (16 : Nat) by omega, zpow_sub₀ (by norm_num),
      zpow_natCast, div_mul_cancel₀ _ (by positivity)]
    exact hwhole
  have hpos := value_pos hz
  have hhalf : (10 : ℚ) ^ e / 2 < m.value / 2 ^ 54 := by linarith
  by_cases hnear : m.value - m.stepsBelow e * (10 : ℚ) ^ e ≤ 10 ^ e / 2
  · refine ⟨⟨m.stepsBelow e, e⟩, rfl, .inl rfl, readsBack_of_near hm hz ?_ ?_⟩ <;>
      rw [Scientific.value] <;> linarith
  · refine ⟨⟨m.stepsBelow e + 1, e⟩, rfl, .inr rfl, readsBack_of_near hm hz ?_ ?_⟩ <;>
      rw [Scientific.value] <;> push_cast <;> linarith

end Magnitude

/-- The first hit of a search. -/
theorem findSome?_range {α : Type} {f : Nat → Option α} {n i : Nat} {a : α} (hi : i < n)
    (hbefore : ∀ j < i, f j = none) (h : f i = some a) : (List.range n).findSome? f = some a := by
  induction n with
  | zero => exact absurd hi (Nat.not_lt_zero i)
  | succ n ih =>
      rw [List.range_succ, List.findSome?_append]
      rcases Nat.lt_succ_iff_lt_or_eq.1 hi with hlt | rfl
      · rw [ih hlt, Option.some_or]
      · have hnone : (List.range i).findSome? f = none :=
          List.findSome?_eq_none_iff.2 fun j hj => hbefore j (List.mem_range.1 hj)
        rw [hnone, Option.none_or, List.findSome?_singleton, h]

namespace Magnitude

variable {m : Magnitude} {d : Scientific}

/-- The search ends on one grid however ties are decided. No coarser grid of seventeen digits at most has a
decimal that reads back. -/
theorem exists_grid (hm : m.WellFormed) (hz : m.isZero = false) :
    ∃ e, m.wholeDigits - 17 ≤ e ∧ e < m.wholeDigits ∧ (∀ tie, m.Candidate e (m.shortest tie)) ∧
      ∀ e' < m.wholeDigits, ∀ d, m.Candidate e' d → e' ≤ e := by
  classical
  have hlast : ∃ i : Nat, i < 17 ∧ ∃ d, m.Candidate (m.wholeDigits - (i + 1)) d := by
    obtain ⟨d, hd⟩ := exists_candidate hm hz
    exact ⟨16, by decide, d, hd⟩
  obtain ⟨hfirst, d, hd⟩ := Nat.find_spec hlast
  have hbefore := fun j => Nat.find_min (m := j) hlast
  generalize Nat.find hlast = i at hfirst hd hbefore
  refine ⟨m.wholeDigits - (i + 1), by omega, by omega, fun tie => ?_, ?_⟩
  · -- `i` is the first grid that has a candidate, whichever one the ties choose there.
    obtain ⟨d', hd'⟩ := exists_onGrid? tie hd
    have hnone : ∀ j < i, m.onGrid? tie (m.wholeDigits - (j + 1)) = none := by
      intro j hj
      cases hgrid : m.onGrid? tie (m.wholeDigits - (j + 1)) with
      | none => rfl
      | some d'' => exact absurd ⟨by omega, d'', candidate_of_onGrid? hgrid⟩ (hbefore j hj)
    have hsearch : m.search? tie = some d' := findSome?_range hfirst hnone hd'
    rw [shortest, hz, if_neg Bool.false_ne_true, hsearch]
    exact candidate_of_onGrid? hd'
  · intro e' he' d' hd'
    by_contra hlt
    obtain ⟨j, hj⟩ := Int.eq_ofNat_of_zero_le (show 0 ≤ m.wholeDigits - 1 - e' by omega)
    refine hbefore j (by omega) ⟨by omega, d', ?_⟩
    rwa [show m.wholeDigits - ((j : Int) + 1) = e' by omega]

/-! ## What its size says -/

theorem Candidate.le_value {e : Int} (h : m.Candidate e d) (hz : m.isZero = false) (he : e < m.wholeDigits) :
    (10 : ℚ) ^ (m.wholeDigits - 1) ≤ d.value := by
  obtain ⟨hwhole, -⟩ := wholeDigits_bounds hz
  obtain ⟨j, hj⟩ := Int.eq_ofNat_of_zero_le (show 0 ≤ m.wholeDigits - 1 - e by omega)
  have hsplit : (10 : ℚ) ^ (m.wholeDigits - 1) = (10 ^ j : Nat) * 10 ^ e := by
    rw [show m.wholeDigits - 1 = (j : Int) + e by omega, zpow_add₀ (by norm_num), zpow_natCast]
    push_cast
    rfl
  -- The power of ten is on the grid, so that it is not above the lower neighbour.
  have hsteps : 10 ^ j ≤ m.stepsBelow e := by
    rw [stepsBelow_eq, Nat.le_floor_iff (div_nonneg (value_pos hz).le (zpow_ten_pos e).le),
      le_div_iff₀ (zpow_ten_pos e), ← hsplit]
    exact hwhole
  have hdigits : m.stepsBelow e ≤ d.digits := by
    rcases h.digits_eq with hd | hd <;> omega
  rw [Scientific.value, h.exponent_eq, hsplit]
  exact mul_le_mul_of_nonneg_right (Nat.cast_le.2 (hsteps.trans hdigits)) (zpow_ten_pos e).le

theorem Candidate.digits_ne_zero {e : Int} (h : m.Candidate e d) (hz : m.isZero = false)
    (he : e < m.wholeDigits) : d.digits ≠ 0 := by
  intro hzero
  have hle := h.le_value hz he
  rw [Scientific.value, hzero, Nat.cast_zero, zero_mul] at hle
  exact absurd (zpow_ten_pos _) (not_lt.2 hle)

/-- A magnitude has no fraction. -/
def IsWhole (m : Magnitude) : Prop :=
  one ∣ m.units

instance (m : Magnitude) : Decidable m.IsWhole :=
  inferInstanceAs (Decidable (one ∣ m.units))

theorem shift_lt_of_not_isWhole (h : ¬ m.IsWhole) : m.shift < 1074 := by
  refine Nat.not_le.1 fun hle => h ?_
  show twoTo 1074 ∣ m.mantissa * twoTo m.shift
  exact (twoTo_dvd hle).mul_left m.mantissa

/-- The gap is a binary fraction. -/
theorem gap_mul_of_not_isWhole (h : ¬ m.IsWhole) : m.gap * twoTo (1074 - m.shift) = 1 := by
  rw [gap, div_mul_eq_mul_div, ← Nat.cast_mul, twoTo_mul_twoTo (shift_lt_of_not_isWhole h).le]
  exact div_self one_cast_pos.ne'

/-- No whole number reads back as a number with a fraction. -/
theorem value_ne_of_not_isWhole (h : ¬ m.IsWhole) (hd : m.readsBack d = true) (n : Nat) : d.value ≠ n := by
  intro hn
  obtain ⟨hlow, hhigh⟩ := near_of_readsBack hd
  have hgap := gap_mul_of_not_isWhole h
  have hpos := m.gap_pos
  generalize hk : twoTo (1074 - m.shift) = k at hgap
  -- Both numbers are multiples of the gap, and less than one gap apart.
  have hsteps : (n : ℚ) = (n * k : Nat) * m.gap := by
    rw [Nat.cast_mul, mul_assoc, mul_comm (k : ℚ), hgap, mul_one]
  rw [hn, hsteps, value_eq] at hlow hhigh
  have hle : n * k < m.mantissa + 1 := by
    have : ((n * k : Nat) : ℚ) * m.gap < (m.mantissa + 1) * m.gap := by linarith
    exact_mod_cast lt_of_mul_lt_mul_right this hpos.le
  have hge : m.mantissa < n * k + 1 := by
    have : (m.mantissa : ℚ) * m.gap < ((n * k : Nat) + 1) * m.gap := by linarith
    exact_mod_cast lt_of_mul_lt_mul_right this hpos.le
  have hmantissa : m.mantissa = n * k := by omega
  refine h ⟨n, ?_⟩
  rw [units, hmantissa, ← hk, Nat.mul_assoc, Nat.mul_comm (twoTo (1074 - m.shift)),
    twoTo_mul_twoTo (shift_lt_of_not_isWhole h).le, Nat.mul_comm]

/-- Numbers with a fraction are below `2 ^ 53`. -/
theorem value_lt_of_not_isWhole (hm : m.WellFormed) (h : ¬ m.IsWhole) (hd : m.readsBack d = true) :
    d.value < 10 ^ 16 := by
  have hgap := gap_mul_of_not_isWhole h
  have hpos := m.gap_pos
  have hshift := shift_lt_of_not_isWhole h
  have hhalf : m.gap * 2 ≤ 1 := by
    rw [← hgap]
    have htwo : twoTo 1 ≤ twoTo (1074 - m.shift) := twoTo_le (by omega)
    exact mul_le_mul_of_nonneg_left (Nat.cast_le.2 htwo) hpos.le
  have hlt : (m.mantissa : ℚ) < 2 ^ 53 := by exact_mod_cast hm.mantissa_lt
  have hvalue : (m.mantissa : ℚ) * m.gap ≤ 2 ^ 53 * (1 / 2) :=
    mul_le_mul hlt.le (by linarith) hpos.le (by norm_num)
  have := (near_of_readsBack hd).2
  rw [value_eq] at this
  calc d.value ≤ 2 ^ 53 * (1 / 2) + 1 / 4 := by linarith
    _ < 10 ^ 16 := by norm_num

/-- The shortest decimal of a whole number has no fraction. -/
theorem exponent_nonneg_of_isWhole (hm : m.WellFormed) (hz : m.isZero = false) (h : m.IsWhole) {e : Int}
    (hmost : ∀ e' < m.wholeDigits, ∀ d, m.Candidate e' d → e' ≤ e) :
    0 ≤ e := by
  obtain ⟨n, hn⟩ := h
  have hvalue : m.value = n := by
    rw [value, hn, Nat.cast_mul, mul_div_cancel_left₀ _ one_cast_pos.ne']
  have hpos := value_pos hz
  have hwhole : 0 < m.wholeDigits := by
    have hone : (1 : ℚ) ≤ m.value := by
      rw [hvalue] at hpos ⊢
      exact_mod_cast hpos
    by_contra hle
    have := (wholeDigits_bounds hz).2.trans_le (zpow_le_one_of_nonpos₀ (by norm_num) (not_lt.1 hle))
    linarith
  -- The number itself is on the grid of the ones.
  refine hmost 0 hwhole ⟨n, 0⟩ ⟨rfl, .inl ?_, ?_⟩
  · rw [stepsBelow_eq, hvalue, zpow_zero, div_one, Nat.floor_natCast]
  · have heq : (⟨n, 0⟩ : Scientific).value = m.value := by
      rw [Scientific.value, hvalue, zpow_zero, mul_one]
    have : 0 < m.value / 2 ^ 54 := by positivity
    refine readsBack_of_near hm hz ?_ ?_ <;> rwa [heq, sub_self]

/-- Of the two numbers next to `1e-5` the larger one is nearer: `1e-5` is not in the upper half of the gap above
the smaller one. -/
theorem four_mul_add_two_lt {mantissa shift : Nat} (hlt : mantissa < twoTo 53)
    (hle : shift ≠ 0 → twoTo 52 ≤ mantissa) (h : mantissa * tenTo 5 < twoTo (1074 - shift)) :
    (4 * mantissa + 2) * tenTo 5 < 4 * twoTo (1074 - shift) := by
  rw [show tenTo 5 = 100000 from rfl] at h ⊢
  rw [show twoTo 52 = 4503599627370496 from rfl] at hle
  rw [show twoTo 53 = 9007199254740992 from rfl] at hlt
  -- The neighbours of `1e-5` have the shift 1005. With a smaller one all numbers are far below it, and with a
  -- larger one none is.
  rcases Nat.lt_trichotomy shift 1005 with hless | hequal | hmore
  · have hpower : twoTo 70 ≤ twoTo (1074 - shift) := twoTo_le (by omega)
    rw [show twoTo 70 = 1180591620717411303424 from rfl] at hpower
    linarith
  · rw [hequal, show twoTo (1074 - 1005) = 590295810358705651712 from rfl] at h ⊢
    have hmantissa : mantissa ≤ 5902958103587056 := by omega
    linarith
  · have hpower : twoTo (1074 - shift) ≤ twoTo 68 := twoTo_le (by omega)
    rw [show twoTo 68 = 295147905179352825856 from rfl] at hpower
    have hnormal := hle (by omega)
    linarith

theorem upperQuarters_lt_of_small (hm : m.WellFormed) (h : m.units * tenTo 5 < one) :
    m.upperQuarters * tenTo 5 < 4 * one := by
  have hshift : m.shift ≤ 1074 := by
    by_contra hlarge
    have hmantissa : 0 < m.mantissa := (twoTo_pos 52).trans_le (hm.le_mantissa (by omega))
    have hone : one ≤ twoTo m.shift := twoTo_le (by omega)
    have hunits : 1 * twoTo m.shift ≤ m.units := Nat.mul_le_mul_right _ hmantissa
    have : m.units * 1 ≤ m.units * tenTo 5 := Nat.mul_le_mul_left _ (by decide)
    omega
  have hone := twoTo_mul_twoTo hshift
  have hscaled : m.mantissa * tenTo 5 < twoTo (1074 - m.shift) := by
    refine Nat.lt_of_mul_lt_mul_right (a := twoTo m.shift) ?_
    rwa [Nat.mul_comm (twoTo _), hone, Nat.mul_right_comm]
  have hends := four_mul_add_two_lt hm.mantissa_lt hm.le_mantissa hscaled
  calc m.upperQuarters * tenTo 5 = (4 * m.mantissa + 2) * tenTo 5 * twoTo m.shift := by
        rw [upperQuarters, Nat.mul_right_comm]
    _ < 4 * twoTo (1074 - m.shift) * twoTo m.shift := Nat.mul_lt_mul_of_pos_right hends (twoTo_pos _)
    _ = 4 * one := by rw [Nat.mul_assoc, Nat.mul_comm (twoTo _), hone]

/-- No decimal from `1e-5` on reads back as a smaller number. -/
theorem value_lt_of_small (hm : m.WellFormed) (h : m.units * tenTo 5 < one) (hd : m.readsBack d = true) :
    d.value < 10 ^ (-5 : Int) := by
  have hquarters := upperQuarters_lt_of_small hm h
  have hcast : (m.upperQuarters : ℚ) * 10 ^ 5 < 4 * one := by
    rw [← tenTo_cast]
    exact_mod_cast hquarters
  have hpos : (0 : ℚ) < 4 * one := mul_pos (by norm_num) one_cast_pos
  calc d.value ≤ m.upperQuarters / (4 * one) := (near_of_readsBack hd).2.trans (upperQuarters_eq m).ge
    _ < 10 ^ (-5 : Int) := by
        rw [zpow_neg, div_lt_iff₀ hpos, inv_mul_eq_div, lt_div_iff₀ (by norm_num)]
        exact_mod_cast hcast

theorem le_value_of_large (hz : m.isZero = false) (h : one ≤ m.units * tenTo 5) {e : Int}
    (hd : m.Candidate e d) (he : e < m.wholeDigits) : (10 : ℚ) ^ (-5 : Int) ≤ d.value := by
  have hvalue : (10 : ℚ) ^ (-5 : Int) ≤ m.value := by
    rw [value, zpow_neg, le_div_iff₀ one_cast_pos, inv_mul_le_iff₀ (by norm_num), mul_comm]
    exact_mod_cast h
  have hlt := hvalue.trans_lt (wholeDigits_bounds hz).2
  have hwhole : -5 < m.wholeDigits := (zpow_lt_zpow_iff_right₀ (by norm_num)).1 hlt
  exact (zpow_le_zpow_right₀ (by norm_num) (by omega)).trans (hd.le_value hz he)

end Magnitude

end Probe.Decimal
