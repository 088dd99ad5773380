import Probe.Suite.Build

/-!
# Faults of a suite

Setting the variables of a suite fails only for its generators, and then nothing is set; its methods and
the order of its cases are looked at when it is built. A suite is valid exactly if both steps succeed.
Main statements: `seed_eq_error_iff`, `validate_eq_error_iff`.
-/

namespace Probe.Suite

theorem seed_of_generators (suite : Suite) (store : Store) (words : Words)
    {generators : List (String × Generator)} (h : suite.generators = .ok generators) :
    suite.seed store words =
      .ok (generateAll generators
        (store.insertAll (suite.assigned.entries.map fun (name, value) => (name, value.toText))) words) := by
  simp [seed, h, bind, Except.bind]

/-- Setting variables fails exactly if a generator is not known, whatever the variables are. -/
theorem seed_eq_error_iff (suite : Suite) (store : Store) (words : Words) (e : SuiteError) :
    suite.seed store words = .error e ↔ suite.generators = .error e := by
  cases hg : suite.generators with
  | error e' => simp [seed, hg, bind, Except.bind]
  | ok generators => simp [seed_of_generators suite store words hg]

theorem validate_of_generators_error (suite : Suite) {e : SuiteError}
    (h : suite.generators = .error e) : suite.validate = .error e := by
  unfold validate
  rw [h]
  rfl

theorem validate_of_generators (suite : Suite) {generators : List (String × Generator)}
    (h : suite.generators = .ok generators) : suite.validate = suite.build.map fun _ => () := by
  unfold validate
  rw [h]
  cases suite.build <;> rfl

/-- A suite is faulty if a generator is not known, or if all are and it cannot be built. -/
theorem validate_eq_error_iff (suite : Suite) (e : SuiteError) :
    suite.validate = .error e ↔
      suite.generators = .error e ∨ (∃ generators, suite.generators = .ok generators) ∧
        suite.build = .error e := by
  cases hg : suite.generators with
  | error e' => simp [suite.validate_of_generators_error hg]
  | ok generators =>
      rw [suite.validate_of_generators hg]
      cases suite.build <;> simp [Except.map]

end Probe.Suite
