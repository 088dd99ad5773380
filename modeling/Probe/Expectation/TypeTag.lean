import Probe.Decimal.Literal
import Probe.Text.Blank
import Probe.Text.Segments

/-!
# Type tags

A type tag names a kind of text. The known kinds are finite decimal literals and mail addresses;
a tag of any other name accepts nothing. Main statements: `isLetterOrDigit_eq`, `accepts_unknown`.
-/

namespace Probe

open Probe.Text
open Probe.Decimal

/-- A decimal literal with blanks around it that denotes a finite number. -/
def isNumber (s : String) : Bool :=
  match Literal.ofText? (trim s.toList) with
  | some literal => literal.finite?.isSome
  | none => false

/-- An ASCII letter. -/
def isLetter (c : Char) : Bool :=
  ('a' ≤ c && c ≤ 'z') || ('A' ≤ c && c ≤ 'Z')

/-- An ASCII letter or digit. -/
def isLetterOrDigit (c : Char) : Bool :=
  isLetter c || ('0' ≤ c && c ≤ '9')

/-- A character that may stand before the `@` of an address. -/
def isLocalChar (c : Char) : Bool :=
  isLetterOrDigit c || c == '.' || c == '_' || c == '-' || c == '+'

/-- A character that may stand after the `@` of an address. -/
def isHostChar (c : Char) : Bool :=
  isLetterOrDigit c || c == '.' || c == '-'

/-- All ways to cut a text in two at a separator. -/
def cutsAt (sep : Char) : List Char → List (List Char × List Char)
  | [] => []
  | c :: rest =>
      let later := (cutsAt sep rest).map fun (before, after) => (c :: before, after)
      if c = sep then ([], rest) :: later else later

/-- A host and a top-level domain of letters, with a point between them. -/
def isDomain (s : List Char) : Bool :=
  (cutsAt '.' s).any fun (host, top) =>
    !host.isEmpty && host.all isHostChar && !top.isEmpty && top.all isLetter

/-- A mail address: a local part, an `@` and a domain. -/
def isEmail (s : String) : Bool :=
  match cutFirst '@' s.toList with
  | some (name, domain) => !name.isEmpty && name.all isLocalChar && isDomain domain
  | none => false

theorem isAlpha_iff_toNat {c : Char} : c.isAlpha = true ↔
    ('A'.toNat ≤ c.toNat ∧ c.toNat ≤ 'Z'.toNat) ∨ ('a'.toNat ≤ c.toNat ∧ c.toNat ≤ 'z'.toNat) := by
  have heither : c.isAlpha = (c.isUpper || c.isLower) := rfl
  have hupper : c.isUpper = decide (c.val ≥ 'A'.val ∧ c.val ≤ 'Z'.val) := rfl
  have hlower : c.isLower = (decide (c.val ≥ 'a'.val) && decide (c.val ≤ 'z'.val)) := rfl
  rw [heither, hupper, hlower]
  simp only [Bool.or_eq_true, Bool.and_eq_true, decide_eq_true_eq, ge_iff_le, UInt32.le_iff_toNat_le]
  rfl

theorem isLetter_eq (c : Char) : isLetter c = c.isAlpha := by
  rw [Bool.eq_iff_iff, isAlpha_iff_toNat, or_comm]
  simp only [isLetter, Bool.or_eq_true, Bool.and_eq_true, decide_eq_true_eq, Char.le_def, UInt32.le_iff_toNat_le]
  rfl

theorem isLetterOrDigit_eq (c : Char) : isLetterOrDigit c = c.isAlphanum := by
  have hdigit : (decide ('0' ≤ c) && decide (c ≤ '9')) = c.isDigit := by
    rw [Bool.eq_iff_iff, Char.isDigit_iff_toNat]
    simp only [Bool.and_eq_true, decide_eq_true_eq, Char.le_def, UInt32.le_iff_toNat_le]
    rfl
  rw [isLetterOrDigit, isLetter_eq, hdigit, Char.isAlphanum]

/-- A kind of text that a tag asks for. -/
inductive TypeTag where
  | number
  | email
  | unknown (name : String)
  deriving DecidableEq, Repr

namespace TypeTag

/-- The tag of a name. -/
def ofName (name : String) : TypeTag :=
  if name = "number" then number else if name = "email" then email else unknown name

/-- The name of a tag. -/
def name : TypeTag → String
  | number => "number"
  | email => "email"
  | unknown name => name

/-- A tag as it stands in an expectation. -/
def text (t : TypeTag) : String :=
  "[" ++ t.name ++ "]"

/-- Whether a text is of the kind that a tag asks for. -/
def accepts (t : TypeTag) (observed : String) : Bool :=
  match t with
  | number => isNumber observed
  | email => isEmail observed
  | unknown _ => false

/-- A tag has the name it was made from. -/
theorem name_ofName (n : String) : (ofName n).name = n := by
  unfold ofName
  split
  · next h => exact h.symm
  · split
    · next h => exact h.symm
    · rfl

/-- Each known tag has a name of its own, -/
theorem ofName_eq_number_iff {n : String} : ofName n = number ↔ n = "number" := by
  constructor
  · intro h
    rw [← name_ofName n, h, name]
  · rintro rfl
    rfl

theorem ofName_eq_email_iff {n : String} : ofName n = email ↔ n = "email" := by
  constructor
  · intro h
    rw [← name_ofName n, h, name]
  · rintro rfl
    rfl

/-- and any other name is that of an unknown tag. -/
theorem ofName_eq_unknown_iff {n m : String} :
    ofName n = unknown m ↔ m ≠ "number" ∧ m ≠ "email" ∧ n = m := by
  constructor
  · intro h
    obtain rfl : n = m := by rw [← name_ofName n, h, name]
    refine ⟨?_, ?_, rfl⟩
    · intro hnumber
      cases (ofName_eq_number_iff.2 hnumber).symm.trans h
    · intro hemail
      cases (ofName_eq_email_iff.2 hemail).symm.trans h
  · rintro ⟨hnumber, hemail, rfl⟩
    rw [ofName, if_neg hnumber, if_neg hemail]

/-- Tags of unknown names accept nothing. -/
theorem accepts_unknown (n observed : String) : (unknown n).accepts observed = false := rfl

end TypeTag

end Probe
