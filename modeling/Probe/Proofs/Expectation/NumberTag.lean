import Probe.Case.Execute
import Probe.Proofs.Decimal.Range
import Probe.Proofs.Decimal.Written
import Probe.Proofs.Expectation.Validation
import Probe.Proofs.Json.Held
import Probe.Text.Lower

/-!
# The number tag

The number tag accepts the numerals of the numbers that round to a finite one. A number of a JSON text is written
as a literal that denotes it, or its shortest decimal, and either is in that range, so that the tag accepts it.
Main statements:

* `isNumber_iff_exists_numeral`: what is accepted, by the grammar of numerals and their exact numbers.
* `finite_numeral_law`: the texts that are accepted and those that are not.
* `isNumber_of_denotes`, `isNumber_toDigits`: a written literal in the range, and an integer of 64 bits.
* `isNumber_text`: the text of a number in the form of its kind.
* `number_tag_law`: the numbers of a response, and the fields that are expected to be numbers.
-/

namespace Probe

open Probe.Text
open Probe.Json
open Probe.Decimal

/-! ## The texts that are accepted -/

theorem isNumber_iff {s : String} :
    isNumber s = true ↔ ∃ l, Literal.ofText? (trim s.toList) = some l ∧ l.finite?.isSome = true := by
  unfold isNumber
  cases Literal.ofText? (trim s.toList) with
  | none => simp
  | some l => simp

/-- A number is a numeral with blanks around it whose number rounds to a finite one. -/
theorem isNumber_iff_exists_numeral {s : String} :
    isNumber s = true ↔ ∃ n : Numeral, IsTrim s.toList n.text ∧ |n.value| < overflowBound := by
  rw [isNumber_iff]
  constructor
  · rintro ⟨l, hl, hfinite⟩
    obtain ⟨n, htext, rfl⟩ := Numeral.ofText?_eq_some_iff.1 hl
    exact ⟨n, isTrim_iff.2 htext, n.isSome_finite?_iff.1 hfinite⟩
  · rintro ⟨n, htrim, hrange⟩
    refine ⟨n.literal, ?_, n.isSome_finite?_iff.2 hrange⟩
    rw [← isTrim_iff.1 htrim]
    exact n.ofText?_text

/-- A text that is accepted has a digit, and beside blanks nothing but what numerals are written with. -/
theorem chars_of_isNumber {s : String} (h : isNumber s = true) :
    (∃ c ∈ s.toList, c.isDigit = true) ∧
      ∀ c ∈ s.toList, isBlank c = true ∨ c.isDigit = true ∨ c ∈ ['+', '-', '.', 'e', 'E'] := by
  obtain ⟨n, ⟨⟨front, back, hs, hfront, hback⟩, -, -⟩, -⟩ := isNumber_iff_exists_numeral.1 h
  rw [hs]
  constructor
  · obtain ⟨c, hc, hdigit⟩ := n.exists_digit
    exact ⟨c, List.mem_append_left _ (List.mem_append_right _ hc), hdigit⟩
  · intro c hc
    rcases List.mem_append.1 hc with hc | hc
    · rcases List.mem_append.1 hc with hc | hc
      · exact .inl (hfront c hc)
      · exact .inr (n.mem_text c hc)
    · exact .inl (hback c hc)

/-- The words for what is no finite number have an `n` in common, which no numeral has. -/
theorem isNumber_eq_false_of_word {s word : String} (hword : lowerCase word ∈ ["inf", "infinity", "nan"])
    (hs : ∀ c ∈ word.toList, c ∈ s.toList) : isNumber s = false := by
  have hletter : 'n' ∈ (lowerCase word).toList := by
    have hall : ∀ w ∈ ["inf", "infinity", "nan"], 'n' ∈ w.toList := by decide
    exact hall _ hword
  rw [lowerCase, String.toList_ofList] at hletter
  obtain ⟨c, hc, hlower⟩ := List.mem_map.1 hletter
  rw [Bool.eq_false_iff]
  intro haccepted
  have hpart := (chars_of_isNumber haccepted).2 c (hs c hc)
  rcases (toLower_eq_iff (by decide)).1 hlower with rfl | rfl
  · exact absurd hpart (by decide)
  · exact absurd hpart (by decide)

/-- The number tag accepts a text exactly if, without the blanks around it, it is a numeral: an optional sign, digits
with an optional point and a digit on one side of it, and an optional exponent; and if the number that it stands for
is, apart from its sign, below the middle between the largest finite number and the power of two after it. A numeral
whose number is too small for any but zero is accepted as zero. Whatever is accepted has a digit, no letter beside
the mark of an exponent and no underscore; the words for infinities and for what is no number are refused, with a
sign or without one and with letters of either case. -/
theorem finite_numeral_law (s : String) :
    (isNumber s = true ↔ ∃ n : Numeral, IsTrim s.toList n.text ∧ |n.value| < 2 ^ 1024 - 2 ^ 970) ∧
    (∀ n : Numeral, IsTrim s.toList n.text → |n.value| ≤ 1 / 2 ^ 1075 →
      isNumber s = true ∧
        (Literal.ofText? (trim s.toList)).bind Literal.finite? = some ⟨n.sign.isMinus, .zero⟩) ∧
    (isNumber s = true → (∃ c ∈ s.toList, c.isDigit = true) ∧
      ∀ c ∈ s.toList, isBlank c = true ∨ c.isDigit = true ∨ c ∈ ['+', '-', '.', 'e', 'E']) ∧
    (∀ (sign : Sign) (word : String), lowerCase word ∈ ["inf", "infinity", "nan"] →
      IsTrim s.toList (sign.text ++ word.toList) → isNumber s = false) := by
  refine ⟨isNumber_iff_exists_numeral, ?_, chars_of_isNumber, ?_⟩
  · intro n htrim hsmall
    have hzero := n.finite?_of_small hsmall
    have hread : Literal.ofText? (trim s.toList) = some n.literal := by
      rw [← isTrim_iff.1 htrim]
      exact n.ofText?_text
    constructor
    · exact isNumber_iff.2 ⟨n.literal, hread, by rw [hzero]; rfl⟩
    · rw [hread, Option.bind_some, hzero]
  · rintro sign word hword ⟨⟨front, back, hs, -, -⟩, -, -⟩
    refine isNumber_eq_false_of_word hword ?_
    intro c hc
    rw [hs]
    exact List.mem_append_left _ (List.mem_append_right _ (List.mem_append_right _ hc))

/-- A numeral of a tiny number without digits in front of its point, between blanks of two kinds, and a word with a
sign. -/
theorem finite_numeral_law_tiny :
    let point : Digits := ⟨['1'], rfl⟩
    let power : Power := ⟨'E', .minus, ⟨['4', '0', '0'], rfl⟩, .inr rfl, List.cons_ne_nil _ _⟩
    let tiny : Numeral := ⟨.minus, .empty, some point, some power, .inr ⟨point, rfl, List.cons_ne_nil _ _⟩⟩
    let s := "\u3000-.1E-400\n"
    let word := " +NaN"
    IsTrim s.toList tiny.text ∧ |tiny.value| ≤ 1 / 2 ^ 1075 ∧ isNumber s = true ∧
      (Literal.ofText? (trim s.toList)).bind Literal.finite? = some ⟨true, .zero⟩ ∧
      (∃ c ∈ s.toList, c.isDigit = true) ∧
      IsTrim word.toList (Sign.plus.text ++ "NaN".toList) ∧ isNumber word = false := by
  intro point power tiny s word
  have htrim : IsTrim s.toList tiny.text := isTrim_iff.2 (by decide)
  have hsmall : |tiny.value| ≤ 1 / 2 ^ 1075 := by
    have hpow : (2 : ℚ) ^ 1075 ≤ 10 ^ 401 := by exact_mod_cast (by decide +kernel : 2 ^ 1075 ≤ 10 ^ 401)
    have hvalue : tiny.literal.decimal = ⟨1, -401⟩ := by decide
    rw [tiny.abs_value, hvalue, Scientific.value, Nat.cast_one, one_mul, zpow_neg, ← one_div]
    exact one_div_le_one_div_of_le (pow_pos two_pos 1075) hpow
  obtain ⟨-, htiny, hchars, -⟩ := finite_numeral_law s
  obtain ⟨haccepted, hzero⟩ := htiny tiny htrim hsmall
  have hword : IsTrim word.toList (Sign.plus.text ++ "NaN".toList) := isTrim_iff.2 (by decide)
  obtain ⟨-, -, -, hrefused⟩ := finite_numeral_law word
  exact ⟨htrim, hsmall, haccepted, hzero, (hchars haccepted).1, hword, hrefused .plus "NaN" (by decide) hword⟩

/-- The numerals of nineteen digits on both sides of the end of the range. -/
example : isNumber "1.797693134862315807e308" = true ∧ isNumber "1.797693134862315808e308" = false := by
  decide +kernel

/-! ## The numbers of a response -/

/-- A literal in the range of finite numbers is a number, with a minus in front of it or without one. -/
theorem isNumber_of_denotes {s : List Char} {q : ℚ} (h : Denotes s q) (hq : q < overflowBound) (negative : Bool) :
    isNumber (String.ofList (if negative then '-' :: s else s)) = true := by
  obtain ⟨l, hl, hvalue⟩ := h.exists_ofText?_trim negative
  have hfinite : l.finite?.isSome = true := l.isSome_finite?_iff.2 (hvalue ▸ hq)
  rw [isNumber, String.toList_ofList, hl]
  exact hfinite

/-- Integers of 64 bits are far below the end of the range. -/
theorem isNumber_toDigits {n : Nat} (h : n ≤ twoTo 64) (negative : Bool) :
    isNumber (String.ofList (if negative then '-' :: Nat.toDigits 10 n else Nat.toDigits 10 n)) = true := by
  have hdenotes := (spells_toDigits n).denotes (List.length_pos_iff.1 Nat.length_toDigits_pos)
  have hrange : (n : ℚ) < overflowBound :=
    calc (n : ℚ) ≤ twoTo 64 := Nat.cast_le.2 h
      _ = 2 ^ 64 := twoTo_cast 64
      _ < overflowBound := two_pow_lt_overflowBound (by decide)
  exact isNumber_of_denotes hdenotes hrange negative

/-- Rounded numbers read back from their shortest decimals. -/
theorem Json.Number.isNumber_text {n : Number} (hn : n.WellFormed) : isNumber n.text = true := by
  cases n with
  | integer n =>
      obtain ⟨hlow, hhigh⟩ := wellFormed_integer.1 hn
      have hbound : n.natAbs ≤ twoTo 64 := by
        have htwo : twoTo 63 ≤ twoTo 64 := twoTo_le (by decide)
        omega
      have htext := isNumber_toDigits hbound (decide (n < 0))
      have hinteger : integerText n =
          if decide (n < 0) = true then '-' :: Nat.toDigits 10 n.natAbs else Nat.toDigits 10 n.natAbs := by
        rw [integerText]
        simp only [decide_eq_true_eq]
      rw [← hinteger, ← toList_text_integer, String.ofList_toList] at htext
      exact htext
  | binary x =>
      have hdenotes := numberLayout.denotes_magnitudeText x.magnitude
      have hrange := Magnitude.value_shortest_lt (wellFormed_binary.1 hn) numberLayout.tie
      exact isNumber_of_denotes hdenotes hrange x.negative

/-- The text of any number that occurs in the body of a response, at whatever depth, is a number to the number tag.
So an expectation that carries the tag accepts the number of a field, and the check of the expected fields goes on
behind it unless the number counts as absent. -/
theorem number_tag_law {r : Response} {body : Value} (hread : r.json = .ok body) :
    (∀ n, (Value.number n).Within body → isNumber (Value.number n).text = true) ∧
    (∀ n name (e : Expectation), body.get? name = some (.number n) → e.tag = some .number → ∀ store,
      (e.validate (.number n) store).1 = true ∧
      ((Value.number n).isFalsy = false → ∀ rest,
        Case.checkFields body ((name, e) :: rest) store =
          Case.checkFields body rest (e.validate (.number n) store).2)) := by
  have hnumbers : ∀ n, (Value.number n).Within body → isNumber (Value.number n).text = true := by
    intro n hn
    rw [Value.text_number]
    exact Number.isNumber_text (wellFormed_of_within hread hn)
  refine ⟨hnumbers, ?_⟩
  intro n name e hget htag store
  have haccepted : (e.validate (.number n) store).1 = true := by
    rw [e.validate_eq]
    exact (e.meets_iff _ store).2 (.inl ⟨.number, htag, hnumbers n ((Value.Within.self _).of_get? hget)⟩)
  refine ⟨haccepted, fun hpresent rest => ?_⟩
  rw [Case.checkFields, hget]
  simp only [hpresent, Bool.false_eq_true, if_false, haccepted, if_true]

/-- The largest and the smallest number, the smallest one inside an object, and negative zero, which counts as
absent. -/
theorem number_tag_law_extremes :
    let r : Response := (Response.ofStatus 200).withBody (.ofString
      "\x7b\"most\":1.7976931348623157e308,\"inner\":\x7b\"least\":-5e-324\x7d,\"zero\":-0.0\x7d")
    let most : Number := .binary ⟨false, ⟨2 ^ 53 - 1, 2045⟩⟩
    let least : Number := .binary ⟨true, ⟨1, 0⟩⟩
    let zero : Number := .binary ⟨true, .zero⟩
    let e := Expectation.parse "[number]"
    ∃ body inner, r.json = .ok body ∧
      body.get? "most" = some (.number most) ∧ body.get? "zero" = some (.number zero) ∧
      body.get? "inner" = some inner ∧ inner.get? "least" = some (.number least) ∧
      isNumber (Value.number least).text = true ∧ isNumber (Value.number zero).text = true ∧
      e.tag = some .number ∧ (Value.number most).isFalsy = false ∧
      Case.checkFields body [("most", e)] .empty = (none, .empty) := by
  intro r most least zero e
  have hmost : (r.json.toOption.bind (·.get? "most")).bind Value.number? = some most := by decide +kernel
  have hzero : (r.json.toOption.bind (·.get? "zero")).bind Value.number? = some zero := by decide +kernel
  have hleast : ((r.json.toOption.bind (·.get? "inner")).bind (·.get? "least")).bind Value.number? = some least := by
    decide +kernel
  cases hread : r.json with
  | error fault =>
      rw [hread] at hmost
      cases hmost
  | ok body =>
      rw [hread] at hmost hzero hleast
      obtain ⟨inner, hinner, hleast⟩ := Option.bind_eq_some_iff.1 (Value.eq_of_number? hleast)
      have hmost : body.get? "most" = some (.number most) := Value.eq_of_number? hmost
      have hzero : body.get? "zero" = some (.number zero) := Value.eq_of_number? hzero
      have hinner : body.get? "inner" = some inner := hinner
      have hleastWithin : (Value.number least).Within body := ((Value.Within.self _).of_get? hleast).of_get? hinner
      have hzeroWithin : (Value.number zero).Within body := (Value.Within.self _).of_get? hzero
      obtain ⟨htexts, hfields⟩ := number_tag_law hread
      obtain ⟨-, hpassed⟩ := hfields most "most" e hmost rfl .empty
      have hpresent : (Value.number most).isFalsy = false := by decide
      have hstore : (e.validate (.number most) .empty).2 = .empty := by
        have hcapture : e.capture = none := rfl
        rw [e.validate_eq, e.insertAll_writes, hcapture]
      refine ⟨body, inner, rfl, hmost, hzero, hinner, hleast, htexts least hleastWithin,
        htexts zero hzeroWithin, rfl, hpresent, ?_⟩
      rw [hpassed hpresent, hstore, Case.checkFields]

end Probe
