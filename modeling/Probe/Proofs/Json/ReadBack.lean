import Probe.Json.Printer
import Probe.Json.Reader
import Probe.Proofs.Decimal.Digits
import Probe.Proofs.Json.Numbers

/-!
# Printed scalars are read back

The text of a truth value, of an integer of 64 bits and of a string is read as that value, and what follows it
is left. Main statements:

* `readChars_escape`: the characters of a string.
* `readNumber_toDigits`: the digits of an integer.
* `readScalar_scalarText`, `read_compact`: the text of a scalar.
* `read_of_readsAs`: the text of any value, with nothing behind it.
-/

namespace Probe.Json

open Probe.Text
open Probe.Decimal

/-- The characters of a printed text, as they are received. -/
def received (s : List Char) : Encoded := s.map Piece.char

theorem received_append (s s' : List Char) : received (s ++ s') = received s ++ received s' := List.map_append

theorem received_cons (c : Char) (s : List Char) : received (c :: s) = .char c :: received s := rfl

/-! ## Strings -/

/-- The digits of a control character are read back. -/
theorem readHex_fourDigits {c : Char} (hc : c.toNat < 0x20) (rest : Encoded) :
    readHex (received (fourDigits c) ++ rest) = .ok (c.toNat, rest) := by
  have hdigits : ∀ n < 0x20, (fourDigits (Char.ofNat n)).length = 4 ∧
      ((fourDigits (Char.ofNat n)).mapM (digitValue? 16)).map (ofDigits 16) = some n := by decide +kernel
  obtain ⟨hlength, hvalue⟩ := hdigits c.toNat hc
  rw [Char.ofNat_toNat] at hlength hvalue
  obtain ⟨values, hvalues, hn⟩ := Option.map_eq_some_iff.1 hvalue
  generalize fourDigits c = digits at hlength hvalues ⊢
  match digits, hlength with
  | [x, y, z, w], _ =>
      have hread : [Piece.char x, .char y, .char z, .char w].mapM (digitOf? 16) = some values := by
        rw [← hvalues]
        rfl
      show readHex (.char x :: .char y :: .char z :: .char w :: rest) = _
      simp only [readHex, hread, hn]

theorem readUnicode_fourDigits {c : Char} (hc : c.toNat < 0x20) (rest : Encoded) :
    readUnicode (received (fourDigits c) ++ rest) = .ok (c, rest) := by
  rw [readUnicode, readHex_fourDigits hc]
  show (if 0xDC00 ≤ c.toNat ∧ c.toNat ≤ 0xDFFF then _ else if 0xD800 ≤ c.toNat ∧ c.toNat ≤ 0xDBFF then _
    else Except.ok (Char.ofNat c.toNat, rest)) = Except.ok (c, rest)
  rw [if_neg (by omega), if_neg (by omega), Char.ofNat_toNat]

/-- What comes of a string after one of its characters. -/
def consRead (c : Char) (result : Except Stop (List Char × Encoded)) : Except Stop (List Char × Encoded) := do
  let (cs, rest) ← result
  .ok (c :: cs, rest)

theorem readChars_backslash {c : Char} {t t' : Encoded} (budget : Nat) (h : readEscape t = .ok (c, t')) :
    readChars (budget + 1) none (.char '\\' :: t) = consRead c (readChars budget none t') := by
  simp only [readChars, h]
  rfl

theorem readChars_plain {c : Char} (budget : Nat) (t : Encoded) (hquote : c ≠ '"') (hbackslash : c ≠ '\\')
    (hc : ¬ c.toNat < 0x20) :
    readChars (budget + 1) none (.char c :: t) = consRead c (readChars budget none t) := by
  simp only [readChars, if_neg hquote, if_neg hbackslash, if_neg hc]
  rfl

/-- An escaped character is read back, and what follows it is read next. -/
theorem readChars_escape (c : Char) (budget : Nat) (t : Encoded) :
    readChars (budget + 1) none (received (escape c) ++ t) = consRead c (readChars budget none t) := by
  unfold escape
  split
  · next h => rw [h]; exact readChars_backslash budget rfl
  · next hquote =>
  split
  · next h => rw [h]; exact readChars_backslash budget rfl
  · next hbackslash =>
  split
  · next h => rw [h]; exact readChars_backslash budget rfl
  split
  · next h => rw [h]; exact readChars_backslash budget rfl
  split
  · next h => rw [h]; exact readChars_backslash budget rfl
  split
  · next h => rw [h]; exact readChars_backslash budget rfl
  split
  · next h => rw [h]; exact readChars_backslash budget rfl
  split
  · next hc =>
      refine readChars_backslash budget ?_
      exact readUnicode_fourDigits hc t
  · next hc => exact readChars_plain budget t hquote hbackslash hc

theorem readChars_flatMap (cs : List Char) (budget : Nat) (rest : Encoded) (h : cs.length < budget) :
    readChars budget none (received (cs.flatMap escape) ++ .char '"' :: rest) = .ok (cs, rest) := by
  induction cs generalizing budget with
  | nil =>
      obtain ⟨budget, rfl⟩ := Nat.exists_eq_succ_of_ne_zero (Nat.ne_of_gt h)
      rfl
  | cons c cs ih =>
      -- One step is paid for each character, however long its escape is.
      obtain ⟨budget, rfl⟩ := Nat.exists_eq_succ_of_ne_zero (Nat.ne_of_gt (Nat.zero_lt_of_lt h))
      rw [List.flatMap_cons, received_append, List.append_assoc, readChars_escape, ih budget (Nat.lt_of_succ_lt_succ h)]
      rfl

theorem escape_ne_nil (c : Char) : escape c ≠ [] := by
  unfold escape
  repeat' split
  all_goals exact List.cons_ne_nil _ _

theorem length_le_flatMap_escape (cs : List Char) : cs.length ≤ (cs.flatMap escape).length := by
  induction cs with
  | nil => exact Nat.le_refl 0
  | cons c cs ih =>
      have hc := List.length_pos_iff.2 (escape_ne_nil c)
      rw [List.flatMap_cons, List.length_append, List.length_cons]
      omega

/-- A printed string is read back. -/
theorem readString_flatMap (s : String) (rest : Encoded) :
    readString (received (s.toList.flatMap escape) ++ .char '"' :: rest) = .ok (s, rest) := by
  have hlength := length_le_flatMap_escape s.toList
  have hbudget : s.toList.length < (received (s.toList.flatMap escape) ++ .char '"' :: rest).length := by
    rw [List.length_append, received, List.length_map, List.length_cons]
    omega
  rw [readString, readChars_flatMap s.toList _ rest hbudget]
  show Except.ok (String.ofList s.toList, rest) = _
  rw [String.ofList_toList]

/-! ## Integers -/

theorem readDigits_append {s : List Char} {values : List Nat} {rest : Encoded}
    (h : s.mapM (digitValue? 10) = some values) (hrest : ∀ p ∈ rest.head?, digitOf? 10 p = none) :
    readDigits (received s ++ rest) = (values, rest) := by
  induction s generalizing values with
  | nil =>
      cases h
      cases rest with
      | nil => rfl
      | cons p rest =>
          have hp : digitOf? 10 p = none := hrest p rfl
          show readDigits (p :: rest) = ([], p :: rest)
          simp only [readDigits, hp]
  | cons c s ih =>
      rw [List.mapM_cons] at h
      obtain ⟨d, hd, h⟩ := Option.bind_eq_some_iff.1 h
      obtain ⟨ds, hds, h⟩ := Option.bind_eq_some_iff.1 h
      cases h
      have hc : digitOf? 10 (.char c) = some d := hd
      rw [received_cons, List.cons_append, readDigits, hc]
      simp only [ih hds]

theorem ofDigits_cons (d : Nat) (ds : List Nat) : ofDigits 10 (d :: ds) = d * 10 ^ ds.length + ofDigits 10 ds := by
  have h := ofDigits_append_eq 10 [d] ds
  rwa [List.singleton_append, show ofDigits 10 [d] = d by simp [ofDigits]] at h

/-- Digits that stay within the limit are all taken. -/
theorem absorb_eq {limit n : Nat} {ds : List Nat} (h : n * 10 ^ ds.length + ofDigits 10 ds ≤ limit) :
    absorb limit n ds = (n * 10 ^ ds.length + ofDigits 10 ds, ds.length) := by
  induction ds generalizing n with
  | nil => simp [absorb, ofDigits]
  | cons d ds ih =>
      have hsplit : n * 10 ^ (d :: ds).length + ofDigits 10 (d :: ds) =
          (n * 10 + d) * 10 ^ ds.length + ofDigits 10 ds := by
        rw [ofDigits_cons, List.length_cons]
        ring
      rw [hsplit] at h
      have hle : n * 10 + d ≤ limit := by
        have := Nat.le_mul_of_pos_right (n * 10 + d) (Nat.pow_pos (n := ds.length) (show 0 < 10 by decide))
        omega
      rw [hsplit, absorb, if_pos hle, ih h, List.length_cons]

/-- What may follow a number: nothing that would be read as a part of it. -/
def EndsNumber (rest : Encoded) : Prop :=
  ∀ p ∈ rest.head?, digitOf? 10 p = none ∧ p ≠ .char '.' ∧ p ≠ .char 'e' ∧ p ≠ .char 'E'

theorem readFraction_of_ends {negative : Bool} {ds : List Nat} {rest : Encoded} (h : EndsNumber rest) :
    readFraction negative ds rest = inRange (ofInteger? negative ds) rest := by
  unfold readFraction
  split
  · exact absurd rfl (h _ rfl).2.1
  · exact absurd rfl (h _ rfl).2.2.1
  · exact absurd rfl (h _ rfl).2.2.2
  · rfl

/-- The digits of an integer of 64 bits are read back. -/
theorem readNumber_toDigits (negative : Bool) {n : Nat} {rest : Encoded} (hn : n ≤ significandLimit)
    (hrest : EndsNumber rest) :
    readNumber negative (received (Nat.toDigits 10 n) ++ rest) = .ok (whole negative n, rest) := by
  obtain ⟨values, hvalues, hspells⟩ := spells_iff.1 (spells_toDigits n)
  have hlength := length_of_mapM hvalues
  have hdigits := readDigits_append hvalues fun p hp => (hrest p hp).1
  have hlimit : 0 * 10 ^ values.length + ofDigits 10 values ≤ significandLimit := by
    rwa [hspells, Nat.zero_mul, Nat.zero_add]
  have habsorb := absorb_eq hlimit
  rw [hspells, Nat.zero_mul, Nat.zero_add] at habsorb
  have hinteger : ofInteger? negative values = some (whole negative n) := by
    simp only [ofInteger?, habsorb, if_pos]
  have hpos : 0 < (Nat.toDigits 10 n).length := Nat.length_toDigits_pos
  unfold readNumber
  rw [hdigits]
  split
  · next heq => cases heq; exact absurd hlength.symm hpos.ne'
  · next heq => cases heq; exact absurd hlength.symm hpos.ne'
  · -- Only zero starts with the digit zero.
    next heq =>
      cases heq
      have hzero : n = 0 := by
        by_contra hne
        exact head_ne_zero_of_toDigits hne hvalues rfl
      rw [hzero] at hlength
      exact absurd hlength (by simp)
  · next heq =>
      cases heq
      rw [readFraction_of_ends hrest, hinteger]
      rfl

/-- The digits of an integer, with its sign. -/
def integerText (n : Int) : List Char :=
  if n < 0 then '-' :: Nat.toDigits 10 n.natAbs else Nat.toDigits 10 n.natAbs

theorem toList_text_integer (n : Int) : (Number.integer n).text.toList = integerText n := by
  cases n with
  | ofNat n =>
      show (toString n).toList = _
      rw [Nat.toString_eq_ofList_toDigits, String.toList_ofList]
      rfl
  | negSucc n =>
      show ("-" ++ toString (n + 1)).toList = _
      rw [String.toList_append, Nat.toString_eq_ofList_toDigits, String.toList_ofList, String.toList_ofList,
        integerText, if_pos (Int.negSucc_lt_zero n), Int.natAbs_negSucc]
      rfl

theorem Value.text_number (n : Number) : (Value.number n).text = n.text :=
  String.ofList_toList

/-! ## Scalars -/

/-- A value that is printed and read back as it is: a truth value, a string or an integer of 64 bits. -/
inductive Value.Exact : Value → Prop where
  | bool (b : Bool) : Exact (.bool b)
  | integer {n : Int} (h : -(twoTo 63 : Int) ≤ n ∧ n < twoTo 64) : Exact (.number (.integer n))
  | string (s : String) : Exact (.string s)

theorem readScalar_of_isDigit {c : Char} (rest : Encoded) (hc : isDigit c = true) :
    readScalar (.char c :: rest) = (readNumber false (.char c :: rest)).bind fun (n, rest) => .ok (.number n, rest) := by
  have hdigit : (digitOf? 10 (.char c)).isSome = true := hc
  unfold readScalar
  split
  · next heq => cases heq
  · next heq => cases heq; exact absurd hc (by decide)
  · next heq => cases heq; exact absurd hc (by decide)
  · next heq => cases heq; exact absurd hc (by decide)
  · next heq => cases heq; exact absurd hc (by decide)
  · next heq => cases heq; exact absurd hc (by decide)
  · next heq =>
      cases heq
      rw [if_pos hdigit]
      rfl

theorem readScalar_integer {n : Int} {rest : Encoded} (hn : -(twoTo 63 : Int) ≤ n ∧ n < twoTo 64)
    (hrest : EndsNumber rest) :
    readScalar (received (integerText n) ++ rest) = .ok (.number (.integer n), rest) := by
  have hpower : twoTo 64 = twoTo 63 * 2 := rfl
  have hpos := twoTo_pos 63
  have hlimit : n.natAbs ≤ significandLimit := by
    rw [significandLimit]
    omega
  unfold integerText
  split
  · next hneg =>
      have hwhole : whole true n.natAbs = .integer n := by
        rw [whole, if_pos rfl, if_pos (by omega), Int.ofNat_natAbs_of_nonpos hneg.le, Int.neg_neg]
      have hread : readScalar (.char '-' :: (received (Nat.toDigits 10 n.natAbs) ++ rest)) =
          (readNumber true (received (Nat.toDigits 10 n.natAbs) ++ rest)).bind
            fun (n, rest) => .ok (.number n, rest) := rfl
      rw [received_cons, List.cons_append, hread, readNumber_toDigits true hlimit hrest, hwhole]
      rfl
  · next hneg =>
      have hwhole : whole false n.natAbs = .integer n := by
        rw [whole, if_neg Bool.false_ne_true, Int.natAbs_of_nonneg (not_lt.1 hneg)]
      obtain ⟨c, s, hs, hc⟩ := exists_toDigits_eq_cons n.natAbs
      have hread := readNumber_toDigits false hlimit hrest
      rw [hs, received_cons, List.cons_append] at hread ⊢
      rw [readScalar_of_isDigit _ hc, hread, hwhole]
      rfl

/-- The text of such a value is read back. -/
theorem readScalar_scalarText {v : Value} (hv : v.Exact) {rest : Encoded} (hrest : EndsNumber rest) :
    readScalar (received (scalarText v) ++ rest) = .ok (v, rest) := by
  cases hv with
  | bool b => cases b <;> rfl
  | integer hn =>
      rw [scalarText, toList_text_integer]
      exact readScalar_integer hn hrest
  | string s =>
      rw [scalarText, stringText, List.cons_append, received_cons, received_append, List.cons_append,
        List.append_assoc]
      show (readString (received (s.toList.flatMap escape) ++ .char '"' :: rest)).bind _ = _
      rw [readString_flatMap]
      rfl

/-- A character that may start the text of a scalar. -/
def StartsScalar (c : Char) : Prop :=
  isSpace (.char c) = false ∧ c ≠ '[' ∧ c ≠ '\x7b'

theorem startsScalar_of_isDigit {c : Char} (hc : isDigit c = true) : StartsScalar c := by
  refine ⟨?_, ?_, ?_⟩
  · rw [Bool.eq_false_iff]
    intro hspace
    simp only [isSpace, Bool.or_eq_true, beq_iff_eq, Piece.char.injEq] at hspace
    rcases hspace with ((rfl | rfl) | rfl) | rfl <;> exact absurd hc (by decide)
  · rintro rfl
    exact absurd hc (by decide)
  · rintro rfl
    exact absurd hc (by decide)

theorem readValue_of_startsScalar {c : Char} {rest : Encoded} (depth : Nat) (hc : StartsScalar c) :
    readValue depth (.char c :: rest) = readScalar (.char c :: rest) := by
  obtain ⟨hspace, harray, hobject⟩ := hc
  have hskip : skipSpace (.char c :: rest) = .char c :: rest := by
    rw [skipSpace, List.dropWhile_cons, hspace]
    rfl
  unfold readValue
  simp only [hskip]
  split
  · next heq => cases heq; exact absurd rfl harray
  · next heq => cases heq; exact absurd rfl hobject
  · rfl

theorem exists_startsScalar {v : Value} (hv : v.Exact) : ∃ c s, scalarText v = c :: s ∧ StartsScalar c := by
  cases hv with
  | bool b => cases b <;> exact ⟨_, _, rfl, by unfold StartsScalar; decide⟩
  | @integer n hn =>
      rw [scalarText, toList_text_integer, integerText]
      split
      · exact ⟨_, _, rfl, by unfold StartsScalar; decide⟩
      · obtain ⟨c, s, hs, hc⟩ := exists_toDigits_eq_cons n.natAbs
        exact ⟨c, s, hs, startsScalar_of_isDigit hc⟩
  | string s => exact ⟨_, _, rfl, by unfold StartsScalar; decide⟩

theorem compact_of_exact {v : Value} (hv : v.Exact) : v.compact = String.ofList (scalarText v) := by
  cases hv <;> rfl

/-- A text is read as a value when containers may be nested `depth` deep, and what follows it is left unless it
could belong to a number. -/
def ReadsAs (depth : Nat) (s : List Char) (v : Value) : Prop :=
  ∀ rest, EndsNumber rest → readValue depth (received s ++ rest) = .ok (v, rest)

theorem readsAs_scalarText {v : Value} (hv : v.Exact) (depth : Nat) : ReadsAs depth (scalarText v) v := by
  intro rest hrest
  have hscalar := readScalar_scalarText hv hrest
  obtain ⟨c, s, hs, hc⟩ := exists_startsScalar hv
  rw [hs, received_cons, List.cons_append] at hscalar ⊢
  rwa [readValue_of_startsScalar depth hc]

/-- A text is read as one thing if nothing but blanks follows it. -/
theorem readText_eq_ok_iff {α : Type} {reader : Encoded → Except Stop (α × Encoded)} {t : Encoded} {a : α} :
    readText reader t = .ok a ↔ ∃ rest, reader t = .ok (a, rest) ∧ skipSpace rest = [] := by
  unfold readText readAll
  constructor
  · intro h
    split at h
    · next hall =>
        cases h
        obtain ⟨⟨a', rest⟩, hread, hrest⟩ := exists_of_bind_eq_ok hall
        simp only at hrest
        split at hrest
        · next hspace => cases hrest; exact ⟨rest, hread, hspace⟩
        · cases hrest
    · cases h
  · rintro ⟨rest, hread, hspace⟩
    simp only [hread, bind, Except.bind, hspace]

/-- A text that is read as a value, with nothing behind it, holds that value. -/
theorem read_of_readsAs {s : List Char} {v : Value} (h : ReadsAs depthLimit s v) :
    Value.read (.ofString (String.ofList s)) = .ok v := by
  have hends : EndsNumber [] := fun p hp => absurd hp (by simp)
  have hread := h [] hends
  rw [List.append_nil] at hread
  have htext : Encoded.ofString (String.ofList s) = received s := by
    rw [Encoded.ofString, String.toList_ofList]
    rfl
  rw [htext]
  exact readText_eq_ok_iff.2 ⟨[], hread, rfl⟩

/-- What is printed of such a value is read as that value. -/
theorem read_compact {v : Value} (hv : v.Exact) : Value.read (.ofString v.compact) = .ok v := by
  rw [compact_of_exact hv]
  exact read_of_readsAs (readsAs_scalarText hv depthLimit)

end Probe.Json
