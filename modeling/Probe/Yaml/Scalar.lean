import Probe.Decimal.Extended
import Probe.Shape
import Probe.Yaml.Node

/-!
# What scalars stand for

A plain scalar without a tag stands for nothing, a boolean, an integer, a float or its text, whichever
comes first. A scalar with quotes stands for its text, and a core tag asks for a kind. Main
statement: `resolve_quoted`.
-/

namespace Probe.Yaml

open Probe.Decimal

/-- What a scalar stands for. -/
inductive Resolved where
  | null
  | bool (b : Bool)
  /-- An integer of 64 bits, signed or not. -/
  | integer (n : Int)
  /-- An integer of more than 64 bits. -/
  | wide (n : Int)
  | float (x : Extended)
  | text (s : String)
  deriving DecidableEq, Repr

/-- What a scalar stands for, as far as a mismatch tells. -/
def Resolved.shape : Resolved → Shape
  | .null => .unit
  | .bool b => .bool b
  | .integer n => .integer n
  | .wide n => .wide n
  | .float x => .float (pointed.extendedText x)
  | .text s => .string s

/-- The boolean that a text spells. -/
def boolean? (s : String) : Option Bool :=
  if ["true", "True", "TRUE"].contains s then some true
  else if ["false", "False", "FALSE"].contains s then some false
  else none

/-- Whether a text spells nothing. -/
def isNull (s : String) : Bool :=
  ["~", "null", "Null", "NULL"].contains s

/-- Whether a text has several digits of which the first is a zero: that is no number. -/
def isPadded (s : List Char) : Bool :=
  1 < s.length && s.head? == some '0' && s.all isDigit

/-- The natural number that a text spells, in decimal or in the base of its first two characters. -/
def magnitude? (s : List Char) : Option Nat :=
  match s with
  | '0' :: 'x' :: digits => Decimal.natural? 16 digits
  | '0' :: 'o' :: digits => Decimal.natural? 8 digits
  | '0' :: 'b' :: digits => Decimal.natural? 2 digits
  | digits => if isPadded digits then none else Decimal.natural? 10 digits

/-- The natural number that a text spells, with or without a plus sign. -/
def natural? (s : List Char) : Option Nat :=
  match s with
  | '+' :: digits => magnitude? digits
  | digits => magnitude? digits

/-- The integer that a text spells. -/
def integer? (s : List Char) : Option Int :=
  match s with
  | '-' :: digits => (magnitude? digits).map fun n => -(n : Int)
  | s => (natural? s).map Int.ofNat

/-- An integer of 64 or of more bits; past 128 bits there is none. -/
def ofInteger? (n : Int) : Option Resolved :=
  if -(twoTo 63 : Int) ≤ n ∧ n < twoTo 64 then some (.integer n)
  else if -(twoTo 127 : Int) ≤ n ∧ n < twoTo 128 then some (.wide n)
  else none

/-- The infinity that a text spells without its sign. -/
def isInfinity (s : List Char) : Bool :=
  [".inf", ".Inf", ".INF"].contains (String.ofList s)

/-- The float that a text spells; an infinity has to be spelt as one. -/
def float? (s : List Char) : Option Extended :=
  if isInfinity (signed s).2 then some (.infinite (signed s).1)
  else if [".nan", ".NaN", ".NAN"].contains (String.ofList s) then some .undefined
  else do
    let literal ← Literal.ofText? s
    let x ← literal.finite?
    some (.finite x)

/-- The number that a plain text spells. -/
def number? (s : List Char) : Option Resolved :=
  match (integer? s).bind ofInteger? with
  | some r => some r
  -- Digits after a leading zero are a text, not a float.
  | none => if isPadded (signed s).2 then none else (float? s).map .float

/-- What a plain text stands for. -/
def Resolved.ofPlain (s : String) : Resolved :=
  if s = "" ∨ isNull s then .null
  else
    match boolean? s with
    | some b => .bool b
    | none => (number? s.toList).getD (.text s)

/-- Whether a tag starts with an exclamation mark. -/
def isMarked (tag : Tag) : Bool :=
  tag.head? == some (.char '!')

/-- Whether a tag is a local one: it is marked, and all of it is text. -/
def isLocal (tag : Option Tag) : Bool :=
  (tag.map fun t => isMarked t && t.toString?.isSome).getD false

/-- What a scalar stands for. A core tag whose kind the text does not spell is a mismatch. -/
def Scalar.resolve (s : Scalar) : Except Mismatch Resolved :=
  let refuse (expected : String) : Except Mismatch Resolved := .error (.value (.string s.text) expected)
  let plain : Resolved := if s.style = .plain then .ofPlain s.text else .text s.text
  match s.tag with
  | none => .ok plain
  | some tag =>
      if tag = coreTag "bool" then
        match boolean? s.text with
        | some b => .ok (.bool b)
        | none => refuse "a boolean"
      else if tag = coreTag "int" then
        match (integer? s.text.toList).bind ofInteger? with
        | some r => .ok r
        | none => refuse "an integer"
      else if tag = coreTag "float" then
        match float? s.text.toList with
        | some x => .ok (.float x)
        | none => refuse "a float"
      else if tag = coreTag "null" then
        if isNull s.text then .ok .null else refuse "null"
      else if isMarked tag then .ok plain
      else .ok (.text s.text)

/-- A scalar with quotes and without a tag stands for its text. -/
theorem resolve_quoted (style : ScalarStyle) (text : String) (h : style ≠ .plain) :
    (Scalar.mk style none text).resolve = .ok (.text text) := by
  simp [Scalar.resolve, h]

end Probe.Yaml
