import Probe.Decimal.Binary64
import Probe.Decimal.Digits

/-!
# Decimal literals

A decimal literal is an optional sign, digits with an optional point among or beside them, and an
optional exponent with an optional sign. It denotes `± digits · 10 ^ exponent`, and is finite when
the nearest 64-bit number is. Main statement: `finite?_sign`.
-/

namespace Probe.Decimal

/-- What a decimal literal denotes. -/
structure Literal where
  negative : Bool
  digits : Nat
  exponent : Int
  deriving DecidableEq, Repr

/-- An optional sign and the rest of a text; the sign is true for minus. -/
def signed : List Char → Bool × List Char
  | '+' :: rest => (false, rest)
  | '-' :: rest => (true, rest)
  | rest => (false, rest)

/-- The exponent at the end of a literal: nothing, or `e` with an optional sign and digits. -/
def exponent? : List Char → Option Int
  | [] => some 0
  | c :: rest =>
      if c = 'e' ∨ c = 'E' then
        let (negative, digits) := signed rest
        (natural? 10 digits).map fun n => if negative then -(n : Int) else n
      else none

namespace Literal

/-- Splits digits around a point off a text: the digits before and after the point, and the rest. -/
def mantissa (s : List Char) : List Char × List Char × List Char :=
  let whole := s.takeWhile isDigit
  match s.dropWhile isDigit with
  | '.' :: rest => (whole, rest.takeWhile isDigit, rest.dropWhile isDigit)
  | rest => (whole, [], rest)

/-- Reads a literal that is the whole text. -/
def ofText? (s : List Char) : Option Literal := do
  let (negative, rest) := signed s
  let (whole, fraction, tail) := mantissa rest
  let digits ← natural? 10 (whole ++ fraction)
  let exponent ← exponent? tail
  some ⟨negative, digits, exponent - (fraction.length : Int)⟩

/-- The 64-bit number nearest to a literal, if there is a finite one. -/
def finite? (l : Literal) : Option Binary64 :=
  (Magnitude.ofDecimal? l.digits l.exponent).map (Binary64.mk l.negative)

/-- The sign of a literal is the sign of its number. -/
theorem finite?_sign (l : Literal) (x : Binary64) (h : l.finite? = some x) :
    x.negative = l.negative := by
  obtain ⟨m, -, rfl⟩ := Option.map_eq_some_iff.1 h
  rfl

end Literal

end Probe.Decimal
