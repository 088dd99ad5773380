import Probe.Suite.Basic
import Probe.Yaml.Decode

/-!
# Suites in YAML

The fields of suites and declarations of cases, and the forms of their values. An unknown field is
refused.
-/

namespace Probe

open Probe.Yaml
open Probe.Decimal

/-- The literal value that a scalar stands for. An integer that no signed 64-bit number holds is a
float. -/
def ScalarValue.ofResolved? : Resolved → Option ScalarValue
  | .text s => some (.text s)
  | .integer n =>
      if n < twoTo 63 then some (.integer n)
      else (Magnitude.ofNat? n.toNat).map fun m => .float (.finite ⟨false, m⟩)
  | .float x => some (.float x)
  | .bool b => some (.bool b)
  | .null | .wide _ => none

/-- Reads the literal value of a variable, of which `outer` is the table. -/
def ScalarValue.read (outer p : Place) : Decode ScalarValue := do
  let p ← p.anyValue 2
  let value : Option ScalarValue :=
    match p.node with
    | .scalar s =>
        match s.resolve with
        | .ok r => ofResolved? r
        | .error _ => none
    | _ => none
  match value with
  | some v => pure v
  | none => outer.refuse (.noVariant "ScalarValue")

/-- The expectation that a scalar stands for. -/
def Expectation.ofResolved? : Resolved → Option Expectation
  | .text s => some (parse s)
  | .integer n => some (parse (toString n))
  | .float x => some (parse (plain.extendedText x))
  | .bool b => some (parse (toString b))
  | .null | .wide _ => none

/-- Reads an expectation. -/
def Expectation.readPlace (p : Place) : Decode Expectation := do
  let expected := "an expectation string or scalar"
  let r ← p.scalarValue expected
  match ofResolved? r with
  | some e => pure e
  | none => p.refuse (.mismatch (.kind r.shape expected))

/-- Reads the entries of a table, whose names are texts. -/
def readEntries {α : Type} (p : Place) (expected : String) (read : Place → Decode α) :
    Decode (List (String × α)) := do
  (← p.entries expected).mapM fun (key, value) => do
    let name ← key.text "a string"
    pure (name, ← read value)

/-- Reads fields with their expectations. -/
def FieldMap.readPlace (p : Place) : Decode FieldMap := do
  pure (ofList (← readEntries p "a map of field names to expectation strings" Expectation.readPlace))

/-- Reads a table. -/
def Table.readPlace {α : Type} (p : Place) (read : Place → Decode α) :
    Decode (Table α) := do
  pure (ofList (← readEntries p "a map" read))

/-- Reads a text. -/
def readString (p : Place) : Decode String :=
  p.text "a string"

/-- Reads a list of texts. -/
def readStrings (p : Place) : Decode (List String) := do
  (← p.items "a sequence").mapM readString

namespace CaseDecl

/-- The fields of the declaration of a case. -/
def fields : List String :=
  ["id", "method", "route", "protected", "depends_on", "params", "route_params", "expected",
    "expected_status", "expected_status_not", "silent", "show"]

/-- Reads a field into a declaration. -/
def assign (record : Place) (name : String) (p : Place) (d : CaseDecl) : Decode CaseDecl := do
  match name with
  | "id" => pure { d with id := ← readString p }
  | "method" => pure { d with method := ← readString p }
  | "route" => pure { d with route := ← readString p }
  | "protected" => pure { d with guarded := ← p.flag }
  | "depends_on" => pure { d with dependsOn := ← readStrings p }
  | "params" => pure { d with params := ← FieldMap.readPlace p }
  | "route_params" => pure { d with routeParams := ← FieldMap.readPlace p }
  | "expected" => pure { d with expected := ← FieldMap.readPlace p }
  | "expected_status" => pure { d with expectedStatus := ← p.optional record (·.natural 16) }
  | "expected_status_not" => pure { d with forbiddenStatus := ← p.optional record (·.natural 16) }
  | "silent" => pure { d with silent := ← p.flag }
  | "show" => pure { d with shown := ← readStrings p }
  | _ => pure d

/-- Reads the declaration of a case. -/
def read (p : Place) : Decode CaseDecl :=
  p.record "TestDef" fields ["id", "method", "route"] true (assign p) empty

end CaseDecl

namespace Suite

/-- The fields of a suite. -/
def fields : List String := ["name", "variables", "generate", "tests"]

/-- Reads a field into a suite. -/
def assign (record : Place) (name : String) (p : Place) (s : Suite) : Decode Suite := do
  match name with
  | "name" => pure { s with name := ← p.optional record readString }
  | "variables" => pure { s with assigned := ← Table.readPlace p (ScalarValue.read p) }
  | "generate" => pure { s with generated := ← Table.readPlace p readString }
  | "tests" => pure { s with cases := ← (← p.items "a sequence").mapM CaseDecl.read }
  | _ => pure s

/-- Reads a suite. -/
def readPlace (p : Place) : Decode Suite :=
  p.record "SuiteFile" fields [] true (assign p) empty

/-- The suite that a YAML text declares. -/
def parse (text : String) : Except ReadError Suite :=
  Yaml.read readPlace text

end Suite

end Probe
