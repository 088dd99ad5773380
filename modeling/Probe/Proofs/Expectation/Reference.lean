import Probe.Proofs.Expectation.Written

/-!
# References to variables

The name of a variable between braces is an expectation that stands for its value. Main statement:
`resolve_referring`.
-/

namespace Probe

/-- The expectation of the value of a variable. -/
def Expectation.referring (name : String) : Expectation :=
  .parse ("\x7b" ++ name ++ "\x7d")

theorem Expectation.reference_referring (name : String) (hne : name ≠ "")
    (hname : ∀ c ∈ name.toList, isNameChar c = true) : (referring name).reference = some name := by
  have hnonempty : name.toList ≠ [] := fun h => hne (String.toList_inj.1 h)
  have hreadable : (Directive.reference name).Readable := ⟨hnonempty, hname, fun t ht => by cases ht⟩
  have hwritten : written [.reference name] = "\x7b" ++ name ++ "\x7d" := by
    simp [written, Directive.text]
  rw [referring, ← hwritten, reference, directives_parse_written (List.forall_mem_singleton.2 hreadable)]
  rfl

/-- It resolves to the value, if there is one. -/
theorem Expectation.resolve_referring (name value : String) (store : Store) (hne : name ≠ "")
    (hname : ∀ c ∈ name.toList, isNameChar c = true) (h : store.get? name = some value) :
    (referring name).resolve store = value := by
  rw [resolve, reference_referring name hne hname, Option.bind_some, h]
  rfl

end Probe
