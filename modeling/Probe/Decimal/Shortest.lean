import Probe.Decimal.Binary64

/-!
# Shortest decimals

The decimal with the fewest digits among those that read back as a given magnitude, and of those
the one nearest to it. The search tries one digit, then two, and so on up to seventeen; on each grid
only the two neighbours of the magnitude have to be tested. Main statement: `readsBack_of_search?`.
-/

namespace Probe.Decimal

/-- The number `digits · 10 ^ exponent`. -/
structure Scientific where
  digits : Nat
  exponent : Int
  deriving DecidableEq, Repr

/-- Which of two equally near decimals is taken. -/
inductive Tie where
  | toEven
  | up
  deriving DecidableEq, Repr

/-- The comparison of `a · 10 ^ e` with `n` quarters of a unit. -/
def compareQuarters (a : Nat) (e : Int) (n : Nat) : Ordering :=
  compare (a * tenTo e.toNat * (4 * one)) (n * tenTo (-e).toNat)

namespace Magnitude

/-- The lower end, in quarters of a unit, of the numbers that round to a magnitude. Below a power of
two the neighbour is only half as far away. -/
def lowerQuarters (m : Magnitude) : Nat :=
  (4 * m.mantissa - if m.mantissa = twoTo 52 ∧ m.shift ≠ 0 then 1 else 2) * twoTo m.shift

/-- The upper end, in quarters of a unit, of the numbers that round to a magnitude. -/
def upperQuarters (m : Magnitude) : Nat :=
  (4 * m.mantissa + 2) * twoTo m.shift

/-- Whether a decimal rounds to a magnitude: the ends of the interval do iff the mantissa is even. -/
def readsBack (m : Magnitude) (d : Scientific) : Bool :=
  let closed := m.mantissa % 2 == 0
  let low := compareQuarters d.digits d.exponent m.lowerQuarters
  let high := compareQuarters d.digits d.exponent m.upperQuarters
  (low == .gt || (closed && low == .eq)) && (high == .lt || (closed && high == .eq))

/-- The number of digits before the point; zero or less for a magnitude below a tenth. -/
def wholeDigits (m : Magnitude) : Int :=
  (digitCount (m.units * tenTo 400 / one) : Int) - 400

/-- How many whole steps of `10 ^ e` fit into a magnitude. -/
def stepsBelow (m : Magnitude) (e : Int) : Nat :=
  m.units * tenTo (-e).toNat / (one * tenTo e.toNat)

/-- Whether the lower neighbour on the grid of `10 ^ e` is the one to take when both read back: the
exact value is compared with the middle of the two. -/
def takesLower (tie : Tie) (m : Magnitude) (e : Int) : Bool :=
  match compareQuarters (2 * m.stepsBelow e + 1) e (8 * m.units) with
  | .gt => true
  | .lt => false
  | .eq => tie == .toEven && m.stepsBelow e % 2 == 0

/-- The better of the two neighbours of a magnitude on the grid of `10 ^ e`, if one reads back. -/
def onGrid? (tie : Tie) (m : Magnitude) (e : Int) : Option Scientific :=
  if m.readsBack ⟨m.stepsBelow e, e⟩ ∧
      (m.readsBack ⟨m.stepsBelow e + 1, e⟩ → m.takesLower tie e) then
    some ⟨m.stepsBelow e, e⟩
  else if m.readsBack ⟨m.stepsBelow e + 1, e⟩ then some ⟨m.stepsBelow e + 1, e⟩
  else none

/-- The first hit on the grids of one to seventeen digits. -/
def search? (tie : Tie) (m : Magnitude) : Option Scientific :=
  (List.range 17).findSome? fun (i : Nat) => m.onGrid? tie (m.wholeDigits - (i + 1))

/-- The shortest decimal that reads back as a magnitude. -/
def shortest (tie : Tie) (m : Magnitude) : Scientific :=
  if m.isZero then ⟨0, 0⟩ else (m.search? tie).getD ⟨0, 0⟩

/-- A decimal taken on a grid reads back. -/
theorem readsBack_of_onGrid? (tie : Tie) (m : Magnitude) (e : Int) (d : Scientific)
    (h : m.onGrid? tie e = some d) : m.readsBack d = true := by
  unfold onGrid? at h
  split at h
  · next hb => cases h; exact hb.1
  · split at h
    · next ha => cases h; exact ha
    · cases h

/-- What the search finds reads back. -/
theorem readsBack_of_search? (tie : Tie) (m : Magnitude) (d : Scientific)
    (h : m.search? tie = some d) : m.readsBack d = true := by
  obtain ⟨i, -, hi⟩ := List.exists_of_findSome?_eq_some h
  exact readsBack_of_onGrid? tie m _ d hi

end Magnitude

end Probe.Decimal
