/-!
# Digits

Reading natural numbers written in a base from two to thirty-six. Main statement:
`ofDigits_append`.
-/

namespace Probe.Decimal

/-- The value of an ASCII digit or letter in a base, if it has one there. -/
def digitValue? (base : Nat) (c : Char) : Option Nat :=
  let n := c.toNat
  let value :=
    if 48 ≤ n ∧ n ≤ 57 then n - 48
    else if 97 ≤ n ∧ n ≤ 122 then n - 87
    else if 65 ≤ n ∧ n ≤ 90 then n - 55
    else 36
  if value < base then some value else none

/-- An ASCII decimal digit. -/
def isDigit (c : Char) : Bool :=
  (digitValue? 10 c).isSome

/-- The number that digit values spell, most significant first. -/
def ofDigits (base : Nat) (values : List Nat) : Nat :=
  values.foldl (fun n d => n * base + d) 0

/-- The natural number that a text spells in a base; the text has digits only, and at least one. -/
def natural? (base : Nat) (s : List Char) : Option Nat :=
  if s.isEmpty then none else (s.mapM (digitValue? base)).map (ofDigits base)

/-- One digit more multiplies by the base. -/
theorem ofDigits_append (base : Nat) (values : List Nat) (d : Nat) :
    ofDigits base (values ++ [d]) = ofDigits base values * base + d := by
  simp [ofDigits, List.foldl_append]

end Probe.Decimal
