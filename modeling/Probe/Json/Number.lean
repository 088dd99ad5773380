import Probe.Decimal.Literal
import Probe.Json.Value

/-!
# Numbers of JSON texts

What the digits of a JSON number denote. The significand holds as many leading digits as fit into 64
bits; it is scaled by one power of ten in binary arithmetic, so that a long fraction may be off by a
unit in the last place. Integers that fit into 64 bits stay integers, but `-0` does not.
-/

namespace Probe.Json

open Probe.Decimal

/-- The largest significand. -/
def significandLimit : Nat := twoTo 64 - 1

/-- Appends digits to a number as long as it stays within a limit; the result and how many digits it
took. -/
def absorb (limit : Nat) : Nat → List Nat → Nat × Nat
  | n, [] => (n, 0)
  | n, d :: rest =>
      if n * 10 + d ≤ limit then
        let (m, taken) := absorb limit (n * 10 + d) rest
        (m, taken + 1)
      else (n, 0)

/-- A power of ten as a 64-bit number. -/
def powerOfTen (n : Nat) : Magnitude :=
  (Magnitude.ofDecimal? 1 n).getD .zero

/-- `f · 10 ^ exponent` in binary arithmetic; none when it overflows. Exponents below -308 are taken
in steps of 308, of which four bring every significand to zero. -/
def scale? (f : Magnitude) (exponent : Int) : (steps : Nat) → Option Magnitude
  | 0 => some .zero
  | steps + 1 =>
      if exponent.natAbs ≤ 308 then
        if 0 ≤ exponent then f.mul? (powerOfTen exponent.natAbs)
        else f.div? (powerOfTen exponent.natAbs)
      else if f.isZero then some f
      -- No significand is so small that it does not overflow here.
      else if 0 ≤ exponent then none
      else do
        let g ← f.div? (powerOfTen 308)
        scale? g (exponent + 308) steps

/-- The binary number of a significand and an exponent of ten. -/
def binary? (negative : Bool) (significand : Nat) (exponent : Int) : Option Number := do
  let f ← Magnitude.ofNat? significand
  let m ← scale? f exponent 5
  some (.binary ⟨negative, m⟩)

/-- The number of a significand without fraction and exponent. -/
def whole (negative : Bool) (significand : Nat) : Number :=
  if negative then
    if 1 ≤ significand ∧ significand ≤ twoTo 63 then .integer (-(significand : Int))
    else .binary ⟨true, (Magnitude.ofNat? significand).getD .zero⟩
  else .integer significand

/-- What a number without a fraction and an exponent denotes: an integer if its digits fit, a binary
number otherwise. -/
def ofInteger? (negative : Bool) (digits : List Nat) : Option Number :=
  let (significand, taken) := absorb significandLimit 0 digits
  if taken = digits.length then some (whole negative significand)
  else binary? negative significand (digits.length - taken : Nat)

/-- The significand and exponent of digits before and after the point. -/
def significandOf (digits fraction : List Nat) : Nat × Int :=
  let (high, taken) := absorb significandLimit 0 digits
  let (all, more) := absorb significandLimit high fraction
  (all, ((digits.length - taken : Nat) : Int) - (more : Int))

/-- What a number with a fraction or an exponent denotes. -/
def ofParts? (negative : Bool) (digits fraction : List Nat) (exponent : Int) : Option Number :=
  let (significand, e) := significandOf digits fraction
  binary? negative significand (e + exponent)

/-- Absorbing takes no more digits than there are. -/
theorem absorb_le (limit n : Nat) (digits : List Nat) : (absorb limit n digits).2 ≤ digits.length := by
  induction digits generalizing n with
  | nil => simp [absorb]
  | cons d rest ih =>
      simp only [absorb]
      split
      · have := ih (n * 10 + d); simp only [List.length_cons]; omega
      · simp

end Probe.Json
