import Probe.Expectation.OfJson
import Probe.Proofs.Decimal.Layout
import Probe.Proofs.Expectation.Validation
import Probe.Proofs.Json.Held

/-!
# Scalars against themselves

An expectation may be written as a scalar, and stands for its text. Texts of truth values, integers and strings
are those of observed values. Numbers with a fraction are not always: an expectation is written as a plain
decimal, an observed number as in JSON. Main statements:

* `readExpectation_eq_ok_iff`: reading an expectation up to some place, and reading a value up to there.
* `read_of_read`: reading an expectation and reading the value that it is written as.
* `own_text_law`: the scalars that are accepted by what is written for them.
* `own_text_law_half`, `rejected_whole`: a number that keeps its text, and one that does not.
-/

namespace Probe

open Probe.Text
open Probe.Json
open Probe.Decimal

/-- A truth value, a number or a string. -/
def Json.Value.isScalar : Value → Bool
  | .bool _ | .number _ | .string _ => true
  | _ => false

/-! ## Reading -/

namespace Json

/-- What is read of a scalar is read without looking into brackets. -/
theorem readHead_eq_ok_iff {t rest : Encoded} {v : Value} (depth : Nat) (hv : v.isScalar = true) :
    readHead t = .ok (v, rest) ↔ readValue depth t = .ok (v, rest) := by
  unfold readHead
  constructor
  · intro h
    split at h
    · cases h
      cases hv
    · cases h
      cases hv
    · unfold readValue
      simp only
      exact h
  · intro h
    unfold readValue at h
    simp only at h
    split at h
    · cases depth with
      | zero => cases h
      | succ depth =>
          obtain ⟨⟨items, rest'⟩, -, h⟩ := exists_of_bind_eq_ok h
          cases h
          cases hv
    · cases depth with
      | zero => cases h
      | succ depth =>
          obtain ⟨⟨members, rest'⟩, -, h⟩ := exists_of_bind_eq_ok h
          cases h
          cases hv
    · simpa only using h

theorem read_of_number? {t : Encoded} {n : Number} (h : (Value.read t).toOption.bind Value.number? = some n) :
    Value.read t = .ok (.number n) := by
  have hread := Value.eq_of_number? h
  cases hvalue : Value.read t with
  | error e => rw [hvalue] at hread; cases hread
  | ok v => rw [hvalue] at hread; cases hread; rfl

end Json

namespace Expectation

theorem isScalar_of_ofScalar? {v : Value} {e : Expectation} (h : ofScalar? v = some e) : v.isScalar = true := by
  cases v <;> first | rfl | cases h

/-- An expectation is read where a value is read that is written for it. -/
theorem readExpectation_eq_ok_iff {t rest : Encoded} {e : Expectation} (depth : Nat) :
    readExpectation t = .ok (e, rest) ↔ ∃ v, readValue depth t = .ok (v, rest) ∧ ofScalar? v = some e := by
  constructor
  · intro h
    obtain ⟨⟨v, rest'⟩, hhead, h⟩ := exists_of_bind_eq_ok h
    dsimp only at h
    split at h
    · next he =>
        cases h
        exact ⟨v, (readHead_eq_ok_iff depth (isScalar_of_ofScalar? he)).1 hhead, he⟩
    · cases h
  · rintro ⟨v, hvalue, he⟩
    have hhead := (readHead_eq_ok_iff depth (isScalar_of_ofScalar? he)).2 hvalue
    simp only [readExpectation, hhead, bind, Except.bind, he]

/-- What is read of the text of a scalar as an expectation. -/
theorem read_of_read {s : String} {v : Value} {e : Expectation} (h : Value.read (.ofString s) = .ok v)
    (he : ofScalar? v = some e) : read s = .ok e := by
  obtain ⟨rest, hvalue, hrest⟩ := readText_eq_ok_iff.1 h
  exact readText_eq_ok_iff.2 ⟨rest, (readExpectation_eq_ok_iff depthLimit).2 ⟨v, hvalue, he⟩, hrest⟩

/-! ## Accepting -/

/-- The text of a value is accepted by the expectation that it is written as, whatever directives it has. -/
theorem accepts_parse_text (v : Value) : ((parse v.text).validate v .empty).1 = true := by
  rw [validate_eq]
  -- Nothing is known in an empty store, so that a reference in the text stays as it is.
  refine ((parse v.text).meets_iff v.text .empty).2 (.inr (.inr ?_))
  rw [resolve]
  cases (parse v.text).reference <;> rfl

/-- Truth values, integers and strings are written as they are observed. -/
theorem ofScalar?_of_exact {v : Value} (hv : v.Exact) : ofScalar? v = some (parse v.text) := by
  cases hv with
  | bool b => cases b <;> rfl
  | @integer n hn =>
      show some (parse (toString n)) = some (parse (String.ofList (toString n).toList))
      rw [String.ofList_toList]
  | string s => rfl

theorem scan_of_plain {s : List Char} (h : ∀ c ∈ s, c ≠ '\x7b' ∧ c ≠ '[' ∧ c ≠ '>') (found : Directives) :
    found.scan 0 s = found := by
  induction s with
  | nil => rfl
  | cons c rest ih =>
      obtain ⟨⟨hbrace, hbracket, hangle⟩, hrest⟩ := List.forall_mem_cons.1 h
      have hnone : found.extend? c rest = none := by
        simp [Directives.extend?, hbrace, hbracket, hangle]
      rw [Directives.scan, hnone]
      exact ih hrest

/-- An expectation without the characters that start a directive accepts its own text only. -/
theorem accepts_parse_iff_of_plain {raw : String} (h : ∀ c ∈ raw.toList, c ≠ '\x7b' ∧ c ≠ '[' ∧ c ≠ '>')
    (v : Value) (store : Store) : ((parse raw).validate v store).1 = true ↔ v.text = raw := by
  have hdirectives : (parse raw).directives = .empty := scan_of_plain h _
  rw [validate_eq, meets_iff, tag, capture, resolve, reference, hdirectives]
  simp [Directives.empty, parse]

end Expectation

theorem Decimal.mem_text_plain (x : Binary64) :
    ∀ c ∈ (plain.text x).toList, isDigit c = true ∨ c = '.' ∨ c = '-' := by
  obtain ⟨n, hn, -⟩ := exists_value_significant (x.magnitude.shortest .up)
  have hbody : ∀ c ∈ plain.magnitudeText x.magnitude, isDigit c = true ∨ c = '.' := by
    rw [magnitudeText_plain]
    exact mem_positionalText false hn _
  intro c hc
  rw [Layout.text, String.toList_ofList] at hc
  cases hx : x.negative with
  | false =>
      rw [hx] at hc
      exact (hbody c hc).imp_right .inl
  | true =>
      rw [hx] at hc
      rcases List.mem_cons.1 hc with rfl | hc
      · exact .inr (.inr rfl)
      · exact (hbody c hc).imp_right .inl

/-- A number with a fraction or an exponent is accepted by its plain text exactly if that is its text in JSON. -/
theorem Expectation.accepts_plain_iff {x : Binary64} (hx : x.magnitude.WellFormed) (store : Store) :
    ((parse (plain.text x)).validate (.number (.binary x)) store).1 = true ↔ x.KeepsText := by
  rw [accepts_parse_iff_of_plain, ← plain_text_eq_iff hx]
  · rw [Value.text_number]
    exact eq_comm
  · intro c hc
    rcases mem_text_plain x c hc with h | rfl | rfl
    · refine ⟨?_, ?_, ?_⟩ <;> rintro rfl <;> exact absurd h (by decide)
    · decide
    · decide

/-! ## A scalar and its own text -/

/-- The expectation that is read of any text of a scalar accepts that scalar, unless it is a number with a
fraction or an exponent that is written in another way as an expectation than in JSON: because it is whole, or
below `1e-5`, or because two shortest decimals are equally near. Any other scalar is also accepted by the
expectation that is read of what is printed of it. -/
theorem own_text_law {t : Encoded} {v : Value} (hread : Value.read t = .ok v) (hscalar : v.isScalar = true) :
    (∀ s, Value.read (.ofString s) = .ok v →
      ∃ e, Expectation.read s = .ok e ∧
        ((e.validate v .empty).1 = true ↔ ∀ x, v = .number (.binary x) → x.KeepsText)) ∧
    ((∀ x, v ≠ .number (.binary x)) →
      ∃ e, Expectation.read v.compact = .ok e ∧ (e.validate v .empty).1 = true) := by
  have hnumber : ∀ n, v = .number n → n.WellFormed := by
    rintro n rfl
    exact wellFormed_of_within hread (.self _)
  -- A number with a fraction or an exponent is settled by its two texts. Anything else has one text only.
  by_cases hbinary : ∃ x, v = .number (.binary x)
  · obtain ⟨x, rfl⟩ := hbinary
    refine ⟨fun s hs => ⟨_, Expectation.read_of_read hs rfl, ?_⟩, fun h => absurd rfl (h x)⟩
    rw [Expectation.accepts_plain_iff (hnumber _ rfl)]
    constructor
    · rintro h x' heq
      cases heq
      exact h
    · exact fun h => h x rfl
  · have hexact : v.Exact := by
      cases v with
      | bool b => exact .bool b
      | string s => exact .string s
      | number n =>
          cases n with
          | integer n => exact .integer (hnumber _ rfl)
          | binary x => exact absurd ⟨x, rfl⟩ hbinary
      | _ => cases hscalar
    have hscalar := Expectation.ofScalar?_of_exact hexact
    have haccepts := Expectation.accepts_parse_text v
    refine ⟨fun s hs => ⟨_, Expectation.read_of_read hs hscalar, iff_of_true haccepts ?_⟩, fun _ => ?_⟩
    · exact fun x hx => absurd ⟨x, hx⟩ hbinary
    · exact ⟨_, Expectation.read_of_read (read_compact hexact) hscalar, haccepts⟩

/-- A half is written the same way as an expectation and in JSON. -/
theorem own_text_law_half :
    let v : Value := .number (.binary ⟨false, ⟨2 ^ 52, 1021⟩⟩)
    Value.read (.ofString "0.5") = .ok v ∧ v.isScalar = true ∧
      ∃ e, Expectation.read "0.5" = .ok e ∧ (e.validate v .empty).1 = true := by
  intro v
  have hread : Value.read (.ofString "0.5") = .ok v := read_of_number? (by decide +kernel)
  obtain ⟨hlaw, -⟩ := own_text_law hread rfl
  obtain ⟨e, he, haccepts⟩ := hlaw "0.5" hread
  have hkeeps : Binary64.KeepsText ⟨false, ⟨2 ^ 52, 1021⟩⟩ :=
    ⟨by decide +kernel, by decide +kernel, by decide +kernel⟩
  refine ⟨hread, rfl, e, he, haccepts.2 fun x hx => ?_⟩
  obtain rfl : Binary64.mk false ⟨2 ^ 52, 1021⟩ = x := Number.binary.inj (Value.number.inj hx)
  exact hkeeps

/-- One with a point is written without it as an expectation, and is rejected. -/
theorem rejected_whole :
    let v : Value := .number (.binary ⟨false, ⟨2 ^ 52, 1022⟩⟩)
    Value.read (.ofString "1.0") = .ok v ∧ v.compact = "1.0" ∧
      ∃ e, Expectation.read "1.0" = .ok e ∧ e = .parse "1" ∧ (e.validate v .empty).1 = false := by
  intro v
  have hread : Value.read (.ofString "1.0") = .ok v := read_of_number? (by decide +kernel)
  have htext : plain.text ⟨false, ⟨2 ^ 52, 1022⟩⟩ = "1" := by decide +kernel
  refine ⟨hread, by decide +kernel, _, Expectation.read_of_read hread rfl, congrArg _ htext, ?_⟩
  decide +kernel

end Probe
