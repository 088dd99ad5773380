import Probe.Decimal.Power

/-!
# Binary64 numbers

A finite number of the 64-bit binary format is a sign and a magnitude `mantissa · 2 ^ shift`,
counted in units of `2 ^ -1074`. Every operation here is exact natural-number arithmetic followed by
one rounding to nearest, ties to even. Main statements: `roundQuotient_near`, `roundQuotient_tie`.
-/

namespace Probe.Decimal

/-- A magnitude `mantissa · 2 ^ shift`, in units of `2 ^ -1074`. -/
structure Magnitude where
  mantissa : Nat
  shift : Nat
  deriving DecidableEq, Repr

/-- A finite number of the 64-bit binary format. -/
structure Binary64 where
  negative : Bool
  magnitude : Magnitude
  deriving DecidableEq, Repr

/-- The number of units of `2 ^ -1074` that make one. -/
def one : Nat := twoTo 1074

/-- The number of binary digits; zero has none. -/
def bitLength (n : Nat) : Nat :=
  if n = 0 then 0 else Nat.log2 n + 1

/-- The integer nearest to `num / den`, ties to even. -/
def roundQuotient (num den : Nat) : Nat :=
  let floor := num / den
  let rest := num % den
  if den < 2 * rest ∨ (2 * rest = den ∧ floor % 2 = 1) then floor + 1 else floor

namespace Magnitude

/-- Zero. -/
def zero : Magnitude := ⟨0, 0⟩

/-- The number of units. -/
def units (m : Magnitude) : Nat :=
  m.mantissa * twoTo m.shift

/-- The magnitude nearest to `num / den` units; none if that is past the largest one. -/
def nearest? (num den : Nat) : Option Magnitude :=
  let shift := bitLength (num / den) - 53
  let mantissa := roundQuotient num (den * twoTo shift)
  let rounded : Magnitude :=
    if mantissa = twoTo 53 then ⟨twoTo 52, shift + 1⟩ else ⟨mantissa, shift⟩
  if rounded.shift ≤ 2045 then some rounded else none

/-- The magnitude nearest to a natural number. -/
def ofNat? (n : Nat) : Option Magnitude :=
  nearest? (n * one) 1

/-- The number of decimal digits; zero has one. -/
def digitCount (n : Nat) : Nat :=
  (Nat.toDigits 10 n).length

/-- The magnitude nearest to `digits · 10 ^ exponent`. Numbers that are too large or too small by many
powers of ten are settled by their number of digits. -/
def ofDecimal? (digits : Nat) (exponent : Int) : Option Magnitude :=
  if digits = 0 then some zero
  else
    let size := (digitCount digits : Int) + exponent
    if 310 < size then none
    else if size < -330 then some zero
    else if 0 ≤ exponent then nearest? (digits * tenTo exponent.toNat * one) 1
    else nearest? (digits * one) (tenTo (-exponent).toNat)

/-- The rounded product. -/
def mul? (a b : Magnitude) : Option Magnitude :=
  nearest? (a.units * b.units) one

/-- The rounded quotient by a magnitude other than zero. -/
def div? (a b : Magnitude) : Option Magnitude :=
  nearest? (a.units * one) b.units

/-- Zero, and no other magnitude. -/
def isZero (m : Magnitude) : Bool :=
  m.mantissa == 0

end Magnitude

namespace Binary64

/-- Zero of either sign. -/
def isZero (x : Binary64) : Bool :=
  x.magnitude.isZero

end Binary64

/-- The rounded quotient is within half of the divisor of the exact one. -/
theorem roundQuotient_near (num den : Nat) (h : 0 < den) :
    2 * num ≤ (2 * roundQuotient num den + 1) * den ∧
      2 * roundQuotient num den * den ≤ 2 * num + den := by
  have hd : den * (num / den) + num % den = num := Nat.div_add_mod num den
  have hr : num % den < den := Nat.mod_lt num h
  generalize hq : num / den = q at *
  generalize hm : num % den = r at *
  unfold roundQuotient
  simp only [hq, hm]
  have e1 : (2 * q + 1) * den = 2 * (den * q) + den := by
    rw [Nat.add_mul, Nat.one_mul, Nat.mul_assoc, Nat.mul_comm q den]
  have e2 : 2 * q * den = 2 * (den * q) := by rw [Nat.mul_assoc, Nat.mul_comm q den]
  have e3 : (2 * (q + 1) + 1) * den = 2 * (den * q) + 3 * den := by
    rw [show 2 * (q + 1) + 1 = 2 * q + 3 by omega, Nat.add_mul, e2]
  have e4 : 2 * (q + 1) * den = 2 * (den * q) + 2 * den := by
    rw [show 2 * (q + 1) = 2 * q + 2 by omega, Nat.add_mul, e2]
  split
  · next hc => rw [e3, e4]; rcases hc with hc | ⟨hc, -⟩ <;> omega
  · next hc => rw [e1, e2]; have : 2 * r ≤ den := by omega
               omega

/-- On an exact tie the rounded quotient is even. -/
theorem roundQuotient_tie (num den : Nat) (h : 2 * (num % den) = den) :
    roundQuotient num den % 2 = 0 := by
  have e : roundQuotient num den = if num / den % 2 = 1 then num / den + 1 else num / den := by
    simp [roundQuotient, h]
  rw [e]
  split <;> omega

end Probe.Decimal
