import Mathlib.Data.List.Induction
import Mathlib.Data.List.TakeWhile
import Probe.Decimal.Layout
import Probe.Decimal.Literal
import Probe.Proofs.Decimal.Whole
import Probe.Text.Blank

/-!
# Texts of digits

What a text of decimal digits spells, and what the digits of a number spell. Main statements:

* `Spells.append`: two texts of digits, one after the other.
* `spells_toDigits`: the digits of a number spell it.
* `exists_spells_significant`: the digits that are kept of a decimal, and how many there are.
-/

namespace Probe.Decimal

open Probe.Text

/-- A text has digits only, and they denote a number. -/
def Spells (s : List Char) (n : Nat) : Prop :=
  (s.mapM (digitValue? 10)).map (ofDigits 10) = some n

theorem ofDigits_append_eq (base : Nat) (front back : List Nat) :
    ofDigits base (front ++ back) = ofDigits base front * base ^ back.length + ofDigits base back := by
  induction back using List.reverseRecOn with
  | nil => simp [ofDigits]
  | append_singleton back d ih =>
      rw [← List.append_assoc, ofDigits_append, ih, ofDigits_append, List.length_append, List.length_singleton,
        Nat.pow_succ, Nat.add_mul, Nat.mul_assoc, Nat.add_assoc]

theorem spells_iff {s : List Char} {n : Nat} :
    Spells s n ↔ ∃ values, s.mapM (digitValue? 10) = some values ∧ ofDigits 10 values = n :=
  Option.map_eq_some_iff

theorem Spells.unique {s : List Char} {n n' : Nat} (h : Spells s n) (h' : Spells s n') : n = n' :=
  Option.some.inj (h.symm.trans h')

theorem spells_nil : Spells [] 0 := rfl

theorem length_of_mapM {α β : Type} {f : α → Option β} {xs : List α} {ys : List β}
    (h : xs.mapM f = some ys) : ys.length = xs.length := by
  induction xs generalizing ys with
  | nil => cases h; rfl
  | cons x xs ih =>
      rw [List.mapM_cons] at h
      obtain ⟨y, -, h⟩ := Option.bind_eq_some_iff.1 h
      obtain ⟨rest, hrest, h⟩ := Option.bind_eq_some_iff.1 h
      cases h
      rw [List.length_cons, List.length_cons, ih hrest]

theorem Spells.append {front back : List Char} {a b : Nat} (hfront : Spells front a)
    (hback : Spells back b) : Spells (front ++ back) (a * tenTo back.length + b) := by
  obtain ⟨as, has, rfl⟩ := spells_iff.1 hfront
  obtain ⟨bs, hbs, rfl⟩ := spells_iff.1 hback
  refine spells_iff.2 ⟨as ++ bs, ?_, ?_⟩
  · rw [List.mapM_append, has, hbs]
    rfl
  · rw [ofDigits_append_eq, length_of_mapM hbs]
    rfl

theorem spells_singleton {c : Char} {d : Nat} (h : digitValue? 10 c = some d) : Spells [c] d := by
  simp [Spells, h, ofDigits]

theorem digitValue?_digitChar {d : Nat} (h : d < 10) : digitValue? 10 (Nat.digitChar d) = some d := by
  revert d
  decide

/-- The digits of a number spell it. -/
theorem spells_toDigits (n : Nat) : Spells (Nat.toDigits 10 n) n := by
  induction n using Nat.strongRecOn with
  | ind n ih =>
      by_cases hn : n < 10
      · rw [Nat.toDigits_of_lt_base hn]
        exact spells_singleton (digitValue?_digitChar hn)
      · have hlast : n % 10 < 10 := Nat.mod_lt n (by decide)
        have hsplit := (ih (n / 10) (by omega)).append (spells_singleton (digitValue?_digitChar hlast))
        rw [Nat.toDigits_of_base_le (by decide) (by omega)]
        rwa [List.length_singleton, show tenTo 1 = 10 from rfl, Nat.div_add_mod'] at hsplit

theorem spells_zeros (n : Nat) : Spells (zeros n) 0 := by
  induction n with
  | zero => exact spells_nil
  | succ n ih =>
      have h := (spells_singleton (show digitValue? 10 '0' = some 0 from rfl)).append ih
      rwa [Nat.zero_mul, Nat.zero_add] at h

theorem length_zeros (n : Nat) : (zeros n).length = n := List.length_replicate

theorem toNat_of_isDigit {c : Char} (h : isDigit c = true) : 48 ≤ c.toNat ∧ c.toNat ≤ 57 := by
  obtain ⟨d, hd⟩ := Option.isSome_iff_exists.1 h
  unfold digitValue? at hd
  simp only [Option.ite_none_right_eq_some] at hd
  -- Letters count from ten on in any base.
  have hlt := hd.1
  split at hlt
  · assumption
  · split at hlt
    · omega
    · split at hlt <;> omega

theorem Spells.isDigit {s : List Char} {n : Nat} (h : Spells s n) : ∀ c ∈ s, isDigit c = true := by
  obtain ⟨values, hvalues, -⟩ := spells_iff.1 h
  clear h
  induction s generalizing values with
  | nil => exact fun c hc => absurd hc List.not_mem_nil
  | cons c rest ih =>
      rw [List.mapM_cons] at hvalues
      obtain ⟨d, hd, hvalues⟩ := Option.bind_eq_some_iff.1 hvalues
      obtain ⟨ds, hds, -⟩ := Option.bind_eq_some_iff.1 hvalues
      exact List.forall_mem_cons.2 ⟨Option.isSome_iff_exists.2 ⟨d, hd⟩, ih ds hds⟩

theorem exists_spells {s : List Char} (h : ∀ c ∈ s, isDigit c = true) : ∃ n, Spells s n := by
  induction s with
  | nil => exact ⟨0, spells_nil⟩
  | cons c rest ih =>
      obtain ⟨hc, hrest⟩ := List.forall_mem_cons.1 h
      obtain ⟨d, hd⟩ := Option.isSome_iff_exists.1 hc
      obtain ⟨n, hn⟩ := ih hrest
      exact ⟨_, (spells_singleton hd).append hn⟩

theorem digitValue?_lt {c : Char} {d : Nat} (h : digitValue? 10 c = some d) : d < 10 := by
  unfold digitValue? at h
  simp only [Option.ite_none_right_eq_some] at h
  exact Option.some.inj h.2 ▸ h.1

theorem Spells.lt {s : List Char} {n : Nat} (h : Spells s n) : n < tenTo s.length := by
  induction s generalizing n with
  | nil => rw [h.unique spells_nil]; exact tenTo_pos 0
  | cons c rest ih =>
      obtain ⟨hc, hrest⟩ := List.forall_mem_cons.1 h.isDigit
      obtain ⟨d, hd⟩ := Option.isSome_iff_exists.1 hc
      obtain ⟨k, hk⟩ := exists_spells hrest
      have hn : n = d * tenTo rest.length + k := h.unique ((spells_singleton hd).append hk)
      calc n < d * tenTo rest.length + tenTo rest.length := hn ▸ Nat.add_lt_add_left (ih hk) _
        _ = (d + 1) * tenTo rest.length := (Nat.succ_mul _ _).symm
        _ ≤ 10 * tenTo rest.length := Nat.mul_le_mul_right _ (digitValue?_lt hd)
        _ = tenTo (rest.length + 1) := Nat.mul_comm _ _

theorem Spells.natural? {s : List Char} {n : Nat} (h : Spells s n) (hne : s ≠ []) : natural? 10 s = some n := by
  rw [Decimal.natural?, List.isEmpty_eq_false_iff.2 hne]
  exact h

theorem exists_toDigits_eq_cons (n : Nat) : ∃ c s, Nat.toDigits 10 n = c :: s ∧ isDigit c = true := by
  have hdigits := (spells_toDigits n).isDigit
  have hpos : 0 < (Nat.toDigits 10 n).length := Nat.length_toDigits_pos
  cases hs : Nat.toDigits 10 n with
  | nil =>
      rw [hs] at hpos
      exact absurd hpos (Nat.lt_irrefl 0)
  | cons c s =>
      rw [hs] at hdigits
      exact ⟨c, s, rfl, hdigits c List.mem_cons_self⟩

theorem lt_tenTo_digitCount (n : Nat) : n < tenTo (Magnitude.digitCount n) :=
  (spells_toDigits n).lt

theorem tenTo_le_of_digitCount {n : Nat} (h : n ≠ 0) : tenTo (Magnitude.digitCount n - 1) ≤ n := by
  have hpos : 0 < Magnitude.digitCount n := Nat.length_toDigits_pos
  refine Nat.not_lt.1 fun hlt => ?_
  by_cases hone : Magnitude.digitCount n - 1 = 0
  · rw [hone] at hlt
    exact h (Nat.lt_one_iff.1 hlt)
  · have hle : Magnitude.digitCount n ≤ Magnitude.digitCount n - 1 :=
      (Nat.length_toDigits_le_iff (by decide) (Nat.pos_of_ne_zero hone)).2 hlt
    omega

/-- The first digit of a number other than zero is not zero. -/
theorem head_ne_zero_of_toDigits {n v : Nat} {values : List Nat} (hn : n ≠ 0)
    (h : (Nat.toDigits 10 n).mapM (digitValue? 10) = some (v :: values)) : v ≠ 0 := by
  rintro rfl
  have hspells := spells_toDigits n
  have hlarge := tenTo_le_of_digitCount hn
  obtain ⟨c, rest, hs, -⟩ := exists_toDigits_eq_cons n
  rw [Magnitude.digitCount, hs, List.length_cons, Nat.add_sub_cancel] at hlarge
  rw [hs, List.mapM_cons] at h
  rw [hs] at hspells
  obtain ⟨d, hd, h⟩ := Option.bind_eq_some_iff.1 h
  obtain ⟨ds, hds, h⟩ := Option.bind_eq_some_iff.1 h
  cases h
  -- The digits behind a zero would spell the whole number, and are too few for it.
  have hrest : Spells rest (ofDigits 10 values) := spells_iff.2 ⟨values, hds, rfl⟩
  have heq := hspells.unique ((spells_singleton hd).append hrest)
  have hlt := hrest.lt
  omega

/-! ## The digits of a decimal -/

/-- A text without the zeros at its end. -/
theorem eq_append_zeros (s : List Char) :
    s = (s.reverse.dropWhile (· == '0')).reverse ++
      zeros (s.length - (s.reverse.dropWhile (· == '0')).reverse.length) := by
  obtain ⟨n, hn⟩ := exists_eq_dropTrailing_append '0' s
  have hlength : s.length = (dropTrailing '0' s).length + n := by
    rw [← List.length_replicate (n := n) (a := '0'), ← List.length_append, ← hn]
  have hcount : s.length - (s.reverse.dropWhile (· == '0')).reverse.length = n :=
    Nat.sub_eq_of_eq_add' hlength
  rw [hcount]
  exact hn

theorem significant_of_digits_eq_zero {d : Scientific} (h : d.digits = 0) : significant d = (['0'], 0) := by
  rw [significant, h]
  rfl

/-- The digits kept of a decimal other than zero spell what is left of it without the zeros at its end, and
they are as many as that number has. -/
theorem exists_spells_significant (d : Scientific) (h : d.digits ≠ 0) :
    ∃ n dropped : Nat, Spells (significant d).1 n ∧ d.digits = n * tenTo dropped ∧
      (significant d).2 = d.exponent + dropped ∧ tenTo ((significant d).1.length - 1) ≤ n := by
  have hsplit := eq_append_zeros (Nat.toDigits 10 d.digits)
  simp only [significant]
  generalize hkept : ((Nat.toDigits 10 d.digits).reverse.dropWhile (· == '0')).reverse = kept at hsplit ⊢
  generalize hdropped : (Nat.toDigits 10 d.digits).length - kept.length = dropped at hsplit ⊢
  have hspells : Spells (kept ++ zeros dropped) d.digits := hsplit ▸ spells_toDigits d.digits
  have hdigits : ∀ c ∈ kept, isDigit c = true := fun c hc => hspells.isDigit c (List.mem_append_left _ hc)
  obtain ⟨n, hn⟩ := exists_spells hdigits
  have hvalue : d.digits = n * tenTo dropped := by
    have := hspells.unique (hn.append (spells_zeros dropped))
    rwa [length_zeros, Nat.add_zero] at this
  have hne : kept ≠ [] := by
    rintro rfl
    rw [hn.unique spells_nil, Nat.zero_mul] at hvalue
    exact h hvalue
  have hlength : (Nat.toDigits 10 d.digits).length = kept.length + dropped := by
    rw [hsplit, List.length_append, length_zeros]
  have hpos : 0 < kept.length := List.length_pos_iff.2 hne
  rw [if_neg (by simpa using hne)]
  refine ⟨n, dropped, hn, hvalue, rfl, ?_⟩
  -- What is kept is large enough, since the whole number has all of its digits.
  have hlarge : tenTo (kept.length - 1 + dropped) ≤ d.digits := by
    have := tenTo_le_of_digitCount h
    rwa [Magnitude.digitCount, hlength, Nat.sub_add_comm hpos] at this
  rw [tenTo_add, hvalue] at hlarge
  exact Nat.le_of_mul_le_mul_right hlarge (tenTo_pos dropped)

end Probe.Decimal
