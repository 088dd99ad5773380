import Probe.Run.Schedule

/-!
# Summaries

A summary keeps the reports of the cases that are not silent, in the order of their turns. Main
statements: `total_merge`, `allPassed_iff`.
-/

namespace Probe

/-- The reports that count. -/
structure Summary where
  reports : List Report

namespace Summary

/-- The summary of no run. -/
def empty : Summary := ⟨[]⟩

/-- Adds a report. -/
def push (s : Summary) (r : Report) : Summary := ⟨s.reports ++ [r]⟩

/-- The number of reports. -/
def total (s : Summary) : Nat := s.reports.length

/-- The number of reports of a status. -/
def count (s : Summary) (status : Status) : Nat :=
  s.reports.countP fun r => r.status == status

/-- The identifiers of the cases that met an error. -/
def errorIds (s : Summary) : List String :=
  (s.reports.filter fun r => r.status == .error).map Report.id

/-- No case failed and none met an error. -/
def allPassed (s : Summary) : Bool :=
  s.count .failed == 0 && s.count .error == 0

/-- The status of the first report of a case. -/
def statusOf? (s : Summary) (id : String) : Option Status :=
  (s.reports.find? fun r => r.id == id).map Report.status

/-- The reports of one run and then those of another. -/
def merge (a b : Summary) : Summary := ⟨a.reports ++ b.reports⟩

theorem total_merge (a b : Summary) : (a.merge b).total = a.total + b.total := by
  simp [merge, total]

theorem count_merge (a b : Summary) (status : Status) :
    (a.merge b).count status = a.count status + b.count status := by
  simp [merge, count]

/-- All passed iff no report is of a failure or an error. -/
theorem allPassed_iff (s : Summary) :
    s.allPassed = true ↔ ∀ r ∈ s.reports, r.status ≠ .failed ∧ r.status ≠ .error := by
  simp [allPassed, count, List.countP_eq_zero, forall_and]

end Summary

/-- The summary of an outcome. -/
def Outcome.summary {σ : Type} (o : Outcome σ) : Summary :=
  ⟨o.reports.filter fun r => !r.silent⟩

end Probe
