import Probe.Json.Printer

/-!
# Texts that are not empty

The text of a value is empty only for the empty string. Main statement: `text_ne_empty`.
-/

namespace Probe

open Probe.Decimal

namespace Decimal

theorem significant_ne_nil (d : Scientific) : (significant d).1 ≠ [] := by
  simp only [significant]
  split
  · exact List.cons_ne_nil _ _
  · next h => simpa using h

theorem positionalText_ne_nil (keepsPoint : Bool) {digits : List Char} (exponent : Int)
    (h : digits ≠ []) : positionalText keepsPoint digits exponent ≠ [] := by
  simp only [positionalText]
  split
  · simp [h]
  · split <;> simp

theorem exponentText_ne_nil (digits : List Char) (leading : Int) : exponentText digits leading ≠ [] := by
  simp [exponentText]

theorem Layout.magnitudeText_ne_nil (layout : Layout) (m : Magnitude) :
    layout.magnitudeText m ≠ [] := by
  have hdigits := significant_ne_nil (m.shortest layout.tie)
  simp only [magnitudeText]
  split
  · split
    · exact positionalText_ne_nil _ _ hdigits
    · exact exponentText_ne_nil _ _
  · exact positionalText_ne_nil _ _ hdigits

end Decimal

namespace Json

theorem Number.text_ne_empty (n : Number) : n.text ≠ "" := by
  cases n with
  | integer n =>
      cases n with
      | ofNat n =>
          show n.repr ≠ ""
          simp [Nat.repr]
      | negSucc n =>
          show "-" ++ n.succ.repr ≠ ""
          simp
  | binary x =>
      have hbody := numberLayout.magnitudeText_ne_nil x.magnitude
      simp only [Number.text, Layout.text]
      split <;> simp [hbody]

namespace Value

theorem compact_ne_empty (v : Value) : v.compact ≠ "" := by
  unfold compact
  cases v with
  | null => simp [compactChars, scalarText]
  | bool b => cases b <;> simp [compactChars, scalarText]
  | number n => simpa [compactChars, scalarText] using n.text_ne_empty
  | string s => simp [compactChars, scalarText, stringText]
  | array items => simp [compactChars]
  | object members => simp [compactChars]

/-- What does not count as absent has a text. -/
theorem text_ne_empty {v : Value} (h : v.isFalsy = false) : v.text ≠ "" := by
  cases v with
  | string s => simpa [isFalsy, text] using h
  | _ => exact compact_ne_empty _

end Value

end Json

end Probe
