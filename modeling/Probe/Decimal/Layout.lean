import Probe.Decimal.Shortest

/-!
# Decimal layouts

How the digits of a shortest decimal become text: where the point goes, when an exponent is written,
and whether a whole number keeps a zero after its point.
-/

namespace Probe.Decimal

/-- The decisions of a number format. -/
structure Layout where
  /-- The exponents of the leading digit that are written without an exponent; none means all. -/
  positional : Option (Int × Int)
  /-- Whether a whole number is followed by `.0`. -/
  keepsPoint : Bool
  /-- Which of two equally near decimals is written. -/
  tie : Tie

/-- `n` zeros. -/
def zeros (n : Nat) : List Char :=
  List.replicate n '0'

/-- The digits of a decimal without the zeros at its end; zero has the digit `0`. -/
def significant (d : Scientific) : List Char × Int :=
  let all := Nat.toDigits 10 d.digits
  let kept := (all.reverse.dropWhile (· == '0')).reverse
  if kept.isEmpty then (['0'], 0) else (kept, d.exponent + (all.length - kept.length : Nat))

/-- Digits and exponent with a point and as many zeros as it takes. -/
def positionalText (keepsPoint : Bool) (digits : List Char) (exponent : Int) : List Char :=
  if 0 ≤ exponent then
    digits ++ zeros exponent.toNat ++ (if keepsPoint then ['.', '0'] else [])
  else
    let places := (-exponent).toNat
    if places < digits.length then
      digits.take (digits.length - places) ++ '.' :: digits.drop (digits.length - places)
    else '0' :: '.' :: zeros (places - digits.length) ++ digits

/-- Digits with the point after the first one, and the exponent of that digit with its sign. -/
def exponentText (digits : List Char) (leading : Int) : List Char :=
  let mantissa :=
    match digits with
    | d :: e :: rest => d :: '.' :: e :: rest
    | short => short
  let sign := if leading < 0 then '-' else '+'
  mantissa ++ 'e' :: sign :: Nat.toDigits 10 leading.natAbs

/-- The text of a magnitude in a layout. -/
def Layout.magnitudeText (layout : Layout) (m : Magnitude) : List Char :=
  let (digits, exponent) := significant (m.shortest layout.tie)
  let leading := exponent + (digits.length : Int) - 1
  match layout.positional with
  | some (least, most) =>
      if least ≤ leading ∧ leading ≤ most then positionalText layout.keepsPoint digits exponent
      else exponentText digits leading
  | none => positionalText layout.keepsPoint digits exponent

/-- The text of a number in a layout; negative zero keeps its sign. -/
def Layout.text (layout : Layout) (x : Binary64) : String :=
  let body := layout.magnitudeText x.magnitude
  String.ofList (if x.negative then '-' :: body else body)

/-- Numbers as plain decimals: never an exponent, no point after a whole number. -/
def plain : Layout := ⟨none, false, .up⟩

/-- Numbers as plain decimals that always have a point. -/
def pointed : Layout := ⟨none, true, .up⟩

end Probe.Decimal
