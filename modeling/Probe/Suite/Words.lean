import Probe.Decimal.Power

/-!
# Random words

A source hands out 32-bit words and zeros when they are used up. A sampler turns a word into a value
or refuses it; drawing takes words until one is accepted. As every sampler accepts zero, drawing
ends. Main statement: `draw_nil`.
-/

namespace Probe

open Probe.Decimal (twoTo)

/-- The words that are left, and the number of words that have been taken. -/
structure Words where
  ahead : List UInt32
  taken : Nat
  deriving DecidableEq, Repr

/-- The values that words stand for. -/
structure Sampler (α : Type) where
  /-- The value of a word, unless it is refused. -/
  read : UInt32 → Option α
  /-- The value of zero. -/
  least : α
  read_zero : read 0 = some least

namespace Sampler

variable {α : Type}

/-- Takes words up to the first that is accepted. -/
def drawFrom (s : Sampler α) : List UInt32 → (taken : Nat) → α × Words
  | [], taken => (s.least, ⟨[], taken + 1⟩)
  | w :: rest, taken =>
      match s.read w with
      | some a => (a, ⟨rest, taken + 1⟩)
      | none => drawFrom s rest (taken + 1)

/-- Draws a value. -/
def draw (s : Sampler α) (words : Words) : α × Words :=
  s.drawFrom words.ahead words.taken

/-- Draws several values. -/
def drawMany (s : Sampler α) : Nat → Words → List α × Words
  | 0, words => ([], words)
  | n + 1, words =>
      let (a, words) := s.draw words
      let (more, words) := drawMany s n words
      (a :: more, words)

/-- The largest lower half of a product that is accepted for a range. -/
def bound (range : Nat) : Nat :=
  range * twoTo (31 - range.log2) - 1

/-- The natural numbers below `range`, each for the same number of words: the upper half of the product
of word and range, if the lower half is within the bound. -/
def below (range : Nat) : Sampler Nat where
  read w :=
    let product := w.toNat * range
    if product % twoTo 32 ≤ bound range then some (product / twoTo 32) else none
  least := 0
  read_zero := by simp

/-- The letters and digits. -/
def alphabet : List Char :=
  "ABCDEFGHIJKLMNOPQRSTUVWXYZabcdefghijklmnopqrstuvwxyz0123456789".toList

/-- A letter or digit, by the upper six bits of a word. -/
def letter : Sampler Char where
  read w := alphabet[w.toNat / twoTo 26]?
  least := 'A'
  read_zero := by decide

/-- Without words left, one zero is taken. -/
theorem draw_nil (s : Sampler α) (taken : Nat) : s.draw ⟨[], taken⟩ = (s.least, ⟨[], taken + 1⟩) := rfl

end Sampler

end Probe
