import Probe.Decimal.Extended
import Probe.Expectation.Fields

/-!
# Suites

A suite declares variables with literal or generated values, and the cases of a run in order.
-/

namespace Probe

open Probe.Decimal

/-- The literal value of a variable. -/
inductive ScalarValue where
  | text (s : String)
  | integer (n : Int)
  | float (x : Extended)
  | bool (b : Bool)
  deriving DecidableEq, Repr

/-- The text that a variable with a literal value gets. -/
def ScalarValue.toText : ScalarValue → String
  | .text s => s
  | .integer n => toString n
  | .float x => plain.extendedText x
  | .bool b => toString b

/-- The declaration of a case. -/
structure CaseDecl where
  id : String
  /-- The name of the method, in any mixture of cases. -/
  method : String
  route : String
  guarded : Bool
  dependsOn : List String
  params : FieldMap
  routeParams : FieldMap
  expected : FieldMap
  expectedStatus : Option Nat
  forbiddenStatus : Option Nat
  silent : Bool
  /-- The variables whose values are shown after execution. -/
  shown : List String
  deriving DecidableEq, Repr

/-- A declaration with nothing in it. -/
def CaseDecl.empty : CaseDecl :=
  { id := ""
    method := ""
    route := ""
    guarded := false
    dependsOn := []
    params := .empty
    routeParams := .empty
    expected := .empty
    expectedStatus := none
    forbiddenStatus := none
    silent := false
    shown := [] }

/-- A suite. -/
structure Suite where
  name : Option String
  /-- Variables with literal values. -/
  assigned : Table ScalarValue
  /-- Variables with generated values, and the kinds of these. -/
  generated : Table String
  cases : List CaseDecl

/-- The suite that declares nothing. -/
def Suite.empty : Suite := ⟨none, .empty, .empty, []⟩

end Probe
