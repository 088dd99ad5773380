import Probe.Run.Order

/-!
# Faults of suites

A suite may be well written and still name a method or a generator that is not known, or declare its
cases in an order in which they cannot be run.
-/

namespace Probe

/-- Why a suite cannot be run. -/
inductive SuiteError where
  | unknownMethod (name : String)
  | unknownGenerator (name kind : String)
  | order (e : OrderError)
  deriving DecidableEq, Repr

/-- The wording of a fault of a suite. -/
def SuiteError.message : SuiteError → String
  | unknownMethod name =>
      "Unknown method: '" ++ name ++ "'. Available methods: GET, POST, PUT, DELETE, PATCH"
  | unknownGenerator name kind =>
      "Unknown generator '" ++ kind ++ "' for variable '" ++ name ++
        "'. Available generators: email, number, string"
  | order e => e.message

/-- The method of a name. -/
def Method.parse (name : String) : Except SuiteError Method :=
  match Method.ofName? name with
  | some m => .ok m
  | none => .error (.unknownMethod name)

end Probe
