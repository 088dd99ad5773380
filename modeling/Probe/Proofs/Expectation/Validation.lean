import Probe.Expectation.Fields
import Probe.Proofs.Json.Text
import Probe.Proofs.Store.Writes

/-!
# Validation of a field

Validating an observed value says whether it meets the expectation, and writes it if the expectation
captures. Main statements:

* `validate_eq`: what is accepted, and what is written.
* `validate_of_capture`: a value that is not absent is never rejected by an expectation that captures.
* `get?_insertAll_writes`: what each variable is left with.
* `validation_law`: the same by the directives of an expectation, and the one variable that may change.
-/

namespace Probe.Expectation

/-- Whether an observed text meets an expectation, with the variables given: its type tag passes, or it
can be captured, or it is the resolved expectation. -/
def meets (e : Expectation) (observed : String) (store : Store) : Bool :=
  e.typeCheck observed == .pass || (e.capture.isSome && observed != "") || observed == e.resolve store

/-- What an expectation writes of an observed text; an empty text is never written. -/
def writes (e : Expectation) (observed : String) : Writes :=
  if observed = "" then [] else (e.capture.map fun name => (name, observed)).toList

theorem captureInto_eq (e : Expectation) (observed : String) (store : Store) :
    ((e.captureInto observed store).1 = .pass ↔ (e.capture.isSome && observed != "") = true) ∧
      (e.captureInto observed store).2 = store.insertAll (e.writes observed) := by
  cases hc : e.capture with
  | none => by_cases h : observed = "" <;> simp [captureInto, writes, hc, h, Table.insertAll]
  | some name =>
      by_cases h : observed = ""
      · simp [captureInto, writes, hc, h, Table.insertAll]
      · simp [captureInto, writes, hc, h, Table.insertAll, Store.set]

theorem writes_of_not_capturing (e : Expectation) (observed : String)
    (h : ¬ (e.capture.isSome && observed != "") = true) : e.writes observed = [] := by
  unfold writes
  split
  · rfl
  · next hne =>
      have hnone : e.capture = none := by simpa [hne] using h
      rw [hnone]
      rfl

/-- An observed value is accepted exactly if its text meets the expectation, and its text is written
exactly if it can be captured; a second capture changes nothing. -/
theorem validate_eq (e : Expectation) (observed : Json.Value) (store : Store) :
    e.validate observed store =
      (e.meets observed.text store, store.insertAll (e.writes observed.text)) := by
  obtain ⟨hpass, hstore⟩ := e.captureInto_eq observed.text store
  by_cases htype : e.typeCheck observed.text = .pass
  · simp [validate, meets, htype, hstore]
  · by_cases hcapture : (e.captureInto observed.text store).1 = .pass
    · have hcapturing := hpass.1 hcapture
      have hagain := (e.captureInto_eq observed.text (store.insertAll (e.writes observed.text))).2
      rw [Store.insertAll_twice] at hagain
      simp [validate, meets, htype, hcapture, hstore, hcapturing, hagain]
    · have hnot : ¬ (e.capture.isSome && observed.text != "") = true := fun h => hcapture (hpass.2 h)
      have hwrites := e.writes_of_not_capturing observed.text hnot
      have hsame : (e.captureInto observed.text store).2 = store := by rw [hstore, hwrites]; rfl
      by_cases hequal : observed.text = e.resolve store
      · simp [validate, meets, htype, hcapture, hsame, hwrites, ← hequal, Table.insertAll]
      · simp [validate, meets, htype, hcapture, hsame, hwrites, hequal, hnot, Table.insertAll]

/-- An expectation that captures never rejects a value that does not count as absent. -/
theorem validate_of_capture (e : Expectation) (observed : Json.Value) (store : Store)
    (hcapture : e.capture.isSome = true) (hpresent : observed.isFalsy = false) :
    (e.validate observed store).1 = true := by
  have htext := Json.Value.text_ne_empty hpresent
  simp [validate_eq, meets, hcapture, htext]

theorem typeCheck_eq_pass_iff (e : Expectation) (observed : String) :
    e.typeCheck observed = .pass ↔ ∃ tag, e.tag = some tag ∧ tag.accepts observed = true := by
  unfold typeCheck
  cases e.tag with
  | none => simp
  | some tag => cases h : tag.accepts observed <;> simp [h]

theorem meets_iff (e : Expectation) (observed : String) (store : Store) :
    e.meets observed store = true ↔
      (∃ tag, e.tag = some tag ∧ tag.accepts observed = true) ∨
      ((∃ name, e.capture = some name) ∧ observed ≠ "") ∨ observed = e.resolve store := by
  simp only [meets, Bool.or_eq_true, Bool.and_eq_true, beq_iff_eq, bne_iff_ne, typeCheck_eq_pass_iff,
    Option.isSome_iff_exists, or_assoc]

/-- What is written is the text itself, to the variable of the capture. -/
theorem insertAll_writes (e : Expectation) (observed : String) (store : Store) :
    store.insertAll (e.writes observed) =
      match e.capture with
      | some name => if observed = "" then store else store.set name observed
      | none => store := by
  unfold writes
  cases e.capture with
  | none => split <;> rfl
  | some name => split <;> rfl

/-- A variable is left with the text if it is the one of the capture and the text is not empty, and with what it
had if not. -/
theorem get?_insertAll_writes (e : Expectation) (observed : String) (store : Store) (name : String) :
    (store.insertAll (e.writes observed)).get? name =
      if e.capture = some name ∧ observed ≠ "" then some observed else store.get? name := by
  rw [insertAll_writes]
  cases e.capture with
  | none => simp
  | some target =>
      by_cases htext : observed = ""
      · simp [htext]
      · simp [htext, eq_comm]

/-- An observed value is accepted exactly if the type tag accepts its text, or the expectation captures and
the text is not empty, or the text is what the expectation resolves to with the variables as they were
found. The text is then written if the expectation captures and the text is not empty, and nothing is
written otherwise: the variable of the capture has the text that was observed, and every other one what it
had. So nothing changes with a value that is rejected, and only the variable of the capture with one that is
accepted. -/
theorem validation_law (e : Expectation) (observed : Json.Value) (store : Store) :
    let text := observed.text
    let accepted := (e.validate observed store).1
    let left := (e.validate observed store).2
    (accepted = true ↔
      (∃ tag, e.tag = some tag ∧ tag.accepts text = true) ∨
      ((∃ name, e.capture = some name) ∧ text ≠ "") ∨ text = e.resolve store) ∧
    (left = match e.capture with
      | some name => if text = "" then store else store.set name text
      | none => store) ∧
    (∀ name, left.get? name = if e.capture = some name ∧ text ≠ "" then some text else store.get? name) ∧
    (accepted = false → left = store) ∧
    (∀ name, left.get? name ≠ store.get? name →
      accepted = true ∧ e.capture = some name ∧ left.get? name = some text) := by
  intro text accepted left
  have hvalid := e.validate_eq observed store
  have haccepted : accepted = e.meets text store := congrArg Prod.fst hvalid
  have hleft : left = store.insertAll (e.writes text) := congrArg Prod.snd hvalid
  have hmeets := e.meets_iff text store
  rw [← haccepted] at hmeets
  have hget := e.get?_insertAll_writes text store
  rw [← hleft] at hget
  refine ⟨hmeets, hleft.trans (e.insertAll_writes text store), hget, ?_, ?_⟩
  · intro hrejected
    -- A text that can be captured is accepted for it.
    have hnot : ¬ (e.capture.isSome && text != "") = true := by
      intro h
      rw [haccepted, meets, h] at hrejected
      simp at hrejected
    rw [hleft, e.writes_of_not_capturing text hnot]
    rfl
  · intro name hchanged
    rw [hget] at hchanged ⊢
    split at hchanged
    · next hcaptured =>
        rw [if_pos hcaptured]
        exact ⟨hmeets.2 (.inr (.inl ⟨⟨name, hcaptured.1⟩, hcaptured.2⟩)), hcaptured.1, rfl⟩
    · exact absurd rfl hchanged

end Probe.Expectation
