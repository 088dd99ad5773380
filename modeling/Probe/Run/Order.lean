import Probe.Case.Basic

/-!
# Order of cases

The identifiers of a list of cases are distinct, and a case depends only on cases before it. Main
statement: `validateAfter_append`.
-/

namespace Probe

/-- What is wrong with the order of a list of cases. -/
inductive OrderError where
  | duplicate (id : String)
  | undeclared (id dependency : String)
  deriving DecidableEq, Repr

/-- The wording of a fault of the order. -/
def OrderError.message : OrderError → String
  | duplicate id => "Duplicate test id: '" ++ id ++ "'"
  | undeclared id dependency =>
      "Test '" ++ id ++ "' depends on '" ++ dependency ++ "', which is not declared before it"

namespace Order

/-- Checks a case that comes after cases of the identifiers `seen`. -/
def checkCase (seen : List String) (c : Case) : Except OrderError Unit :=
  match c.dependencies.find? fun d => !seen.contains d with
  | some dependency => .error (.undeclared c.id dependency)
  | none => if seen.contains c.id then .error (.duplicate c.id) else .ok ()

/-- Checks cases that come after cases of the identifiers `seen`. -/
def validateAfter (seen : List String) : List Case → Except OrderError Unit
  | [] => .ok ()
  | c :: rest =>
      match checkCase seen c with
      | .error e => .error e
      | .ok () => validateAfter (c.id :: seen) rest

/-- Checks a list of cases and reports the first fault. -/
def validate (cases : List Case) : Except OrderError Unit :=
  validateAfter [] cases

/-- Cases are checked one part after the other. -/
theorem validateAfter_append (seen : List String) (a b : List Case) :
    validateAfter seen (a ++ b) =
      match validateAfter seen a with
      | .error e => .error e
      | .ok () => validateAfter ((a.map Case.id).reverse ++ seen) b := by
  induction a generalizing seen with
  | nil => rfl
  | cons c rest ih =>
      simp only [List.cons_append, validateAfter]
      cases checkCase seen c with
      | error e => rfl
      | ok u => simp [ih, List.append_assoc]

end Order

end Probe
