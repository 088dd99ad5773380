import Probe.Expectation.Fields
import Probe.Json.Reader

/-!
# Fields from JSON texts

An expectation is written as a JSON string or another scalar, a field map as an object of them. The
text is read from left to right, so that a value of the wrong kind is noticed before a fault that
comes later. Main statement: `ofScalar?_string`.
-/

namespace Probe

open Probe.Text
open Probe.Json

namespace Expectation

/-- The expectation that a JSON scalar stands for; null stands for none. -/
def ofScalar? : Value → Option Expectation
  | .bool b => some (parse (toString b))
  | .number (.integer n) => some (parse (toString n))
  | .number (.binary x) => some (parse (Decimal.plain.text x))
  | .string s => some (parse s)
  | _ => none

theorem ofScalar?_string (s : String) : ofScalar? (.string s) = some (parse s) := rfl

end Expectation

/-- What a JSON value is, as far as a mismatch tells. -/
def shapeOf : Value → Shape
  | .null => .null
  | .bool b => .bool b
  | .number (.integer n) => .integer n
  | .number (.binary x) => .float (numberLayout.text x)
  | .string s => .string s
  | .array _ => .sequence
  | .object _ => .map

/-- Reads a value, but of a container only the opening bracket. -/
def readHead (t : Encoded) : Except Stop (Value × Encoded) :=
  match skipSpace t with
  | .char '[' :: rest => .ok (.array [], rest)
  | .char '\x7b' :: rest => .ok (.object [], rest)
  | t => readScalar t

/-- A mismatch of the value before `rest`. -/
def mismatch (v : Value) (expected : String) (rest : Encoded) : Stop :=
  stopBefore (.mismatch (.kind (shapeOf v) expected)) rest

/-- Reads an expectation. -/
def readExpectation (t : Encoded) : Except Stop (Expectation × Encoded) := do
  let (v, rest) ← readHead t
  match Expectation.ofScalar? v with
  | some e => .ok (e, rest)
  | none => .error (mismatch v "an expectation string or scalar" rest)

/-- Reads a field map. -/
def readFields (t : Encoded) : Except Stop (FieldMap × Encoded) := do
  match ← readHead t with
  | (.object _, rest) =>
      let (members, rest) ← readMembers readExpectation (rest.length + 1) true rest
      .ok (FieldMap.ofList members, rest)
  | (v, rest) => .error (mismatch v "a map of field names to expectation strings" rest)

/-- The expectation that a JSON text holds. -/
def Expectation.read (s : String) : Except ReadError Expectation :=
  readText readExpectation (Encoded.ofString s)

/-- The field map that a JSON text holds. -/
def FieldMap.read (s : String) : Except ReadError FieldMap :=
  readText readFields (Encoded.ofString s)

end Probe
