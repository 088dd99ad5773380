import Probe.Json.Reader
import Probe.Proofs.Decimal.Rounding
import Probe.Proofs.Except

/-!
# Numbers that are read

What is read of the digits of a JSON number is an integer of 64 bits or a rounded magnitude. Main statements:
`wellFormed_of_readNumber`, `wellFormed_of_readScalar`.
-/

namespace Probe.Json

open Probe.Text
open Probe.Decimal

/-- An integer fits into 64 bits, signed or not; a binary number has the form that rounding gives. -/
def Number.WellFormed : Number → Prop
  | .integer n => -(twoTo 63 : Int) ≤ n ∧ n < twoTo 64
  | .binary x => x.magnitude.WellFormed

theorem wellFormed_binary {x : Binary64} : (Number.binary x).WellFormed ↔ x.magnitude.WellFormed := Iff.rfl

theorem wellFormed_integer {n : Int} : (Number.integer n).WellFormed ↔ -(twoTo 63 : Int) ≤ n ∧ n < twoTo 64 :=
  Iff.rfl

theorem absorb_le_limit (limit n : Nat) (digits : List Nat) (h : n ≤ limit) :
    (absorb limit n digits).1 ≤ limit := by
  induction digits generalizing n with
  | nil => exact h
  | cons d rest ih =>
      simp only [absorb]
      split
      · next hd => exact ih _ hd
      · exact h

theorem wellFormed_of_scale? {f m : Magnitude} {exponent : Int} {steps : Nat} (hf : f.WellFormed)
    (h : scale? f exponent steps = some m) : m.WellFormed := by
  induction steps generalizing f exponent with
  | zero =>
      cases h
      exact Magnitude.wellFormed_zero
  | succ steps ih =>
      unfold scale? at h
      split at h
      · split at h
        · exact Magnitude.wellFormed_of_mul? h
        · exact Magnitude.wellFormed_of_div? h
      · split at h
        · cases h
          exact hf
        · split at h
          · cases h
          · obtain ⟨g, hg, h⟩ := Option.bind_eq_some_iff.1 h
            exact ih (Magnitude.wellFormed_of_div? hg) h

theorem wellFormed_of_binary? {negative : Bool} {significand : Nat} {exponent : Int} {n : Number}
    (h : binary? negative significand exponent = some n) : n.WellFormed := by
  unfold binary? at h
  obtain ⟨f, hf, h⟩ := Option.bind_eq_some_iff.1 h
  obtain ⟨m, hm, h⟩ := Option.bind_eq_some_iff.1 h
  cases h
  exact wellFormed_binary.2 (wellFormed_of_scale? (Magnitude.wellFormed_of_ofNat? hf) hm)

theorem wellFormed_whole (negative : Bool) {significand : Nat} (h : significand ≤ significandLimit) :
    (whole negative significand).WellFormed := by
  have hlimit : significand < twoTo 64 := Nat.lt_of_le_of_lt h (by decide)
  have hsixty : twoTo 63 ≤ twoTo 64 := by decide
  unfold whole
  split
  · split
    · next hfits =>
        rw [wellFormed_integer]
        omega
    · rw [wellFormed_binary]
      cases hm : Magnitude.ofNat? significand with
      | none => exact Magnitude.wellFormed_zero
      | some m => exact Magnitude.wellFormed_of_ofNat? hm
  · rw [wellFormed_integer]
    omega

theorem wellFormed_of_ofInteger? {negative : Bool} {digits : List Nat} {n : Number}
    (h : ofInteger? negative digits = some n) : n.WellFormed := by
  unfold ofInteger? at h
  simp only at h
  split at h
  · cases h
    exact wellFormed_whole negative (absorb_le_limit _ _ _ (Nat.zero_le _))
  · exact wellFormed_of_binary? h

theorem wellFormed_of_ofParts? {negative : Bool} {digits fraction : List Nat} {exponent : Int} {n : Number}
    (h : ofParts? negative digits fraction exponent = some n) : n.WellFormed := by
  unfold ofParts? at h
  exact wellFormed_of_binary? h

theorem of_inRange {n : Option Number} {m : Number} {rest rest' : Encoded}
    (h : inRange n rest = .ok (m, rest')) : n = some m := by
  unfold inRange at h
  split at h
  · cases h; rfl
  · cases h

theorem wellFormed_of_readExponent {negative : Bool} {digits fraction : List Nat} {t rest : Encoded}
    {n : Number} (h : readExponent negative digits fraction t = .ok (n, rest)) : n.WellFormed := by
  -- Past the limit of exponents a number vanishes if it is read at all.
  have hvanished : ∀ (c : Prop) [Decidable c] (stop : Stop) (left : Encoded),
      (if c then Except.error stop else .ok (Number.binary ⟨negative, .zero⟩, left)) = .ok (n, rest) →
      n.WellFormed := by
    intro c _ stop left h
    split at h
    · cases h
    · cases h
      exact Magnitude.wellFormed_zero
  unfold readExponent at h
  simp only at h
  split at h
  · cases h
  · cases h
  · split at h
    · exact wellFormed_of_ofParts? (of_inRange h)
    · exact hvanished _ _ _ h

theorem wellFormed_of_readFraction {negative : Bool} {digits : List Nat} {t rest : Encoded} {n : Number}
    (h : readFraction negative digits t = .ok (n, rest)) : n.WellFormed := by
  unfold readFraction at h
  split at h
  · split at h
    · cases h
    · cases h
    · exact wellFormed_of_readExponent h
    · exact wellFormed_of_readExponent h
    · exact wellFormed_of_ofParts? (of_inRange h)
  · exact wellFormed_of_readExponent h
  · exact wellFormed_of_readExponent h
  · exact wellFormed_of_ofInteger? (of_inRange h)

/-- A number that is read is in the form of its kind. -/
theorem wellFormed_of_readNumber {negative : Bool} {t rest : Encoded} {n : Number}
    (h : readNumber negative t = .ok (n, rest)) : n.WellFormed := by
  unfold readNumber at h
  split at h
  · cases h
  · cases h
  · cases h
  · exact wellFormed_of_readFraction h

theorem eq_of_readWord {α : Type} {result a : α} {word : List Char} {t rest : Encoded}
    (h : readWord result word t = .ok (a, rest)) : a = result := by
  induction word generalizing t with
  | nil => cases h; rfl
  | cons c word ih =>
      cases t with
      | nil => cases h
      | cons p t =>
          rw [readWord] at h
          split at h
          · exact ih h
          · cases h

theorem wellFormed_of_readScalar {t rest : Encoded} {n : Number}
    (h : readScalar t = .ok (.number n, rest)) : n.WellFormed := by
  have hnumber : ∀ {negative : Bool} {t : Encoded},
      (readNumber negative t >>= fun p => .ok (.number p.1, p.2)) = Except.ok (Value.number n, rest) →
        n.WellFormed := by
    intro negative t h
    obtain ⟨⟨n', rest'⟩, hread, h⟩ := exists_of_bind_eq_ok h
    cases h
    exact wellFormed_of_readNumber hread
  unfold readScalar at h
  split at h
  · cases h
  · exact absurd (eq_of_readWord h) (by simp)
  · exact absurd (eq_of_readWord h) (by simp)
  · exact absurd (eq_of_readWord h) (by simp)
  · obtain ⟨⟨s, rest'⟩, -, h⟩ := exists_of_bind_eq_ok h
    cases h
  · exact hnumber h
  · split at h
    · exact hnumber h
    · cases h

end Probe.Json
