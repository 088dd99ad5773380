import Probe.Proofs.Case.Execution
import Probe.Proofs.Expectation.Validation

/-!
# What an execution captures

The expected fields of a case are checked in order against the body of the response, if the response
gets as far as that. The fields before the first one that is not met are written, as far as they capture,
and a field is checked with what the fields before it wrote. Nothing else changes a variable. Main
statements:

* `checkFields_append`: fields that are met are passed over, and leave their writes.
* `exists_checked`: which fields are met, and what they find and capture.
* `store_execute`: the variables after an execution.
-/

namespace Probe

/-- An expected field: its name and its expectation. -/
abbrev Field := String × Expectation

/-- What a body holds for a name, unless it counts as absent. -/
def Json.Value.present? (body : Json.Value) (name : String) : Option Json.Value :=
  (body.get? name).filter fun observed => !observed.isFalsy

theorem Json.Value.present?_eq_some_iff (body observed : Json.Value) (name : String) :
    body.present? name = some observed ↔ body.get? name = some observed ∧ observed.isFalsy = false := by
  simp [present?, Option.filter_eq_some_iff]

namespace Case

/-- Whether a body meets an expected field, with the variables given. -/
def isMet (body : Json.Value) (f : Field) (store : Store) : Bool :=
  match body.present? f.1 with
  | some observed => (f.2.validate observed store).1
  | none => false

/-- Why a body does not meet an expected field that it does not meet. -/
def failureOf (body : Json.Value) (f : Field) (store : Store) : Failure :=
  match body.present? f.1 with
  | some observed => .wrongField f.1 (f.2.resolve store) observed.text
  | none => .missingField f.1

/-- What fields capture of a body, in order: the text of what is observed, to the name that the
expectation gives. -/
def fieldWrites (body : Json.Value) (fields : List Field) : Writes :=
  fields.filterMap fun f => do
    let name ← f.2.capture
    let observed ← body.present? f.1
    some (name, observed.text)

/-- The fields before the first one that is not met, where each field finds what the fields before it
have captured. -/
def metFields (body : Json.Value) : List Field → Store → List Field
  | [], _ => []
  | f :: rest, store =>
      if isMet body f store then
        f :: metFields body rest (store.insertAll (fieldWrites body [f]))
      else []

/-- The body that the expected fields of a case are checked against, if the response gets as far as
that. -/
def checkedBody? (c : Case) (r : Response) : Option Json.Value :=
  match c.statusFailure? r, r.isJson, r.json with
  | none, true, .ok body => if body.isFalsy then none else some body
  | _, _, _ => none

/-! ## Fields -/

/-- What is written is not empty, and its name is that of a capture. -/
theorem of_mem_fieldWrites {body : Json.Value} {fields : List Field} {w : String × String}
    (h : w ∈ fieldWrites body fields) : (∃ f ∈ fields, f.2.capture = some w.1) ∧ w.2 ≠ "" := by
  obtain ⟨f, hf, hw⟩ := List.mem_filterMap.1 h
  simp only [Option.bind_eq_bind, Option.bind_eq_some_iff, Option.some.injEq] at hw
  obtain ⟨name, hcapture, observed, hpresent, rfl⟩ := hw
  have hfalsy := ((Json.Value.present?_eq_some_iff _ _ _).1 hpresent).2
  exact ⟨⟨f, hf, hcapture⟩, Json.Value.text_ne_empty hfalsy⟩

theorem fieldWrites_append (body : Json.Value) (a b : List Field) :
    fieldWrites body (a ++ b) = fieldWrites body a ++ fieldWrites body b :=
  List.filterMap_append

/-- What a field that is there captures is what its validation writes. -/
theorem fieldWrites_singleton {body observed : Json.Value} {f : Field}
    (h : body.present? f.1 = some observed) : fieldWrites body [f] = f.2.writes observed.text := by
  have htext := Json.Value.text_ne_empty ((Json.Value.present?_eq_some_iff _ _ _).1 h).2
  cases hc : f.2.capture <;> simp [fieldWrites, Expectation.writes, h, hc, htext]

/-- A field that is met is passed over and leaves its writes; any other field ends the checks and writes
nothing. -/
theorem checkFields_cons (body : Json.Value) (f : Field) (rest : List Field) (store : Store) :
    checkFields body (f :: rest) store =
      if isMet body f store then checkFields body rest (store.insertAll (fieldWrites body [f]))
      else (some (failureOf body f store), store) := by
  obtain ⟨name, e⟩ := f
  cases hpresent : body.present? name with
  | none =>
      have hmissing : checkFields body ((name, e) :: rest) store = (some (.missingField name), store) := by
        cases hget : body.get? name with
        | none => simp [checkFields, hget]
        | some observed =>
            have hfalsy : observed.isFalsy = true := by
              simpa [Json.Value.present?, hget] using hpresent
            simp [checkFields, hget, hfalsy]
      simp [isMet, failureOf, hpresent, hmissing]
  | some observed =>
      obtain ⟨hget, hfalsy⟩ := (Json.Value.present?_eq_some_iff _ _ _).1 hpresent
      have hwrites : fieldWrites body [(name, e)] = e.writes observed.text :=
        fieldWrites_singleton hpresent
      have hvalid := e.validate_eq observed store
      by_cases hmet : e.meets observed.text store = true
      · simp [isMet, checkFields, hpresent, hget, hfalsy, hvalid, hmet, hwrites]
      · -- What is rejected was not captured, or it would have been accepted.
        have hnot : ¬ (e.capture.isSome && observed.text != "") = true := by
          intro h
          simp [Expectation.meets, h] at hmet
        have hnone := e.writes_of_not_capturing observed.text hnot
        simp [isMet, checkFields, failureOf, hpresent, hget, hfalsy, hvalid, hmet, hnone,
          Table.insertAll]

theorem checkFields_cons_of_met {body : Json.Value} {f : Field} {store : Store} (rest : List Field)
    (h : isMet body f store = true) :
    checkFields body (f :: rest) store =
      checkFields body rest (store.insertAll (fieldWrites body [f])) := by
  rw [checkFields_cons, if_pos h]

/-- Every field is met, with what the fields before it have captured. -/
def AllMet (body : Json.Value) (fields : List Field) (store : Store) : Prop :=
  ∀ earlier f later, fields = earlier ++ f :: later →
    isMet body f (store.insertAll (fieldWrites body earlier)) = true

theorem allMet_cons_iff (body : Json.Value) (f : Field) (rest : List Field) (store : Store) :
    AllMet body (f :: rest) store ↔
      isMet body f store = true ∧ AllMet body rest (store.insertAll (fieldWrites body [f])) := by
  constructor
  · intro h
    refine ⟨h [] f rest rfl, ?_⟩
    rintro earlier g later rfl
    have hg := h (f :: earlier) g later rfl
    rwa [← List.singleton_append, fieldWrites_append, Store.insertAll_append] at hg
  · rintro ⟨hf, hrest⟩ earlier g later heq
    cases earlier with
    | nil =>
        obtain ⟨rfl, -⟩ := List.cons.inj heq
        exact hf
    | cons f' earlier =>
        obtain ⟨rfl, hsplit⟩ := List.cons.inj heq
        rw [← List.singleton_append, fieldWrites_append, Store.insertAll_append]
        exact hrest earlier g later hsplit

/-- Fields that are met are passed over: those after them are checked with what they have captured. -/
theorem checkFields_append (body : Json.Value) (earlier rest : List Field) (store : Store)
    (h : AllMet body earlier store) :
    checkFields body (earlier ++ rest) store =
      checkFields body rest (store.insertAll (fieldWrites body earlier)) := by
  induction earlier generalizing store with
  | nil => rfl
  | cons f earlier ih =>
      obtain ⟨hf, hrest⟩ := (allMet_cons_iff body f earlier store).1 h
      rw [List.cons_append, checkFields_cons_of_met _ hf, ih _ hrest, ← Store.insertAll_append,
        ← fieldWrites_append]
      rfl

theorem allMet_metFields (body : Json.Value) (fields : List Field) (store : Store) :
    AllMet body (metFields body fields store) store := by
  induction fields generalizing store with
  | nil =>
      intro earlier f later h
      simp [metFields] at h
  | cons f rest ih =>
      simp only [metFields]
      split
      · next hf => exact (allMet_cons_iff _ _ _ _).2 ⟨hf, ih _⟩
      · intro earlier g later h
        simp at h

/-- The fields that are met are the first ones, and the one after them, if there is one, is not met. -/
theorem exists_rest_metFields (body : Json.Value) (fields : List Field) (store : Store) :
    ∃ rest, fields = metFields body fields store ++ rest ∧ ∀ f ∈ rest.head?,
      isMet body f (store.insertAll (fieldWrites body (metFields body fields store))) = false := by
  induction fields generalizing store with
  | nil => exact ⟨[], rfl, by simp⟩
  | cons f fields ih =>
      simp only [metFields]
      split
      · next hf =>
          obtain ⟨rest, hsplit, hnext⟩ := ih (store.insertAll (fieldWrites body [f]))
          refine ⟨rest, congrArg (f :: ·) hsplit, ?_⟩
          rwa [← List.singleton_append, fieldWrites_append, Store.insertAll_append]
      · next hf => exact ⟨f :: fields, rfl, by simpa [fieldWrites, Table.insertAll] using hf⟩

/-- How fields are checked against a body, with the variables `found`: the first ones, `met`, are met
and capture `own`, and the checks end at the first one of the `rest`. -/
structure Checked (body : Json.Value) (fields met rest : List Field) (found : Store) (own : Writes) :
    Prop where
  split : fields = met ++ rest
  writes : own = fieldWrites body met
  /-- A field is checked with what the fields before it have captured. -/
  check : ∀ earlier later, met = earlier ++ later →
    checkFields body fields found =
      checkFields body (later ++ rest) (found.insertAll (fieldWrites body earlier))
  accept : AllMet body met found
  reject : ∀ f ∈ rest.head?, isMet body f (found.insertAll own) = false

theorem exists_checked (body : Json.Value) (fields : List Field) (store : Store) :
    ∃ met rest, Checked body fields met rest store (fieldWrites body (metFields body fields store)) := by
  obtain ⟨rest, hsplit, hnext⟩ := exists_rest_metFields body fields store
  have hmet := allMet_metFields body fields store
  refine ⟨_, rest, hsplit, rfl, ?_, hmet, hnext⟩
  intro earlier later h
  have hearlier : AllMet body earlier store := by
    rintro first f others rfl
    exact hmet first f (others ++ later) (by simp [h])
  rw [← checkFields_append body earlier (later ++ rest) store hearlier, ← List.append_assoc, ← h,
    ← hsplit]

/-- The checks write what the fields that are met capture. -/
theorem store_checkFields (body : Json.Value) (fields : List Field) (store : Store) :
    (checkFields body fields store).2 =
      store.insertAll (fieldWrites body (metFields body fields store)) := by
  -- The fields that are met leave their writes, and the first one of the rest ends the checks.
  obtain ⟨rest, hsplit, hnext⟩ := exists_rest_metFields body fields store
  have hmet := checkFields_append body _ rest store (allMet_metFields body fields store)
  rw [← hsplit] at hmet
  rw [hmet]
  cases rest with
  | nil => rfl
  | cons f later =>
      rw [checkFields_cons, hnext f rfl, if_neg Bool.false_ne_true]

/-! ## Executions -/

section

variable {σ : Type} (transport : Transport σ) (base : String)

/-- The body that the expected fields of a case are checked against when it is executed, if it comes to
that. -/
def executedBody? (c : Case) (store : Store) (s : σ) : Option Json.Value :=
  if c.state.isFinal then none
  else do
    let request ← (c.request base store).toOption
    let response ← (transport.send request s).1.toOption
    c.checkedBody? response

/-- What an execution captures: the writes of the expected fields before the first one that is not
met. -/
def captures (c : Case) (store : Store) (s : σ) : Writes :=
  match c.executedBody? transport base store s with
  | some body => fieldWrites body (metFields body c.expected.entries store)
  | none => []

theorem store_judgeBody (c : Case) (body : Json.Value) (store : Store) :
    (c.judgeBody body store).2 =
      if body.isFalsy then store
      else store.insertAll (fieldWrites body (metFields body c.expected.entries store)) := by
  unfold judgeBody
  split
  · rfl
  · rw [← store_checkFields]
    split <;> next h => rw [h]

theorem store_judge (c : Case) (r : Response) (store : Store) :
    (c.judge r store).2 =
      match c.checkedBody? r with
      | some body => store.insertAll (fieldWrites body (metFields body c.expected.entries store))
      | none => store := by
  unfold judge checkedBody?
  cases c.statusFailure? r with
  | some why => rfl
  | none =>
      cases r.isJson with
      | false => rfl
      | true =>
          cases r.json with
          | error e => rfl
          | ok body =>
              have hbody := c.store_judgeBody body store
              by_cases hfalsy : body.isFalsy = true
              · simpa [hfalsy] using hbody
              · simpa [hfalsy] using hbody

theorem executedBody?_of_answered (c : Case) (store : Store) (s : σ) {request : Request}
    {response : Response} {s' : σ} (hw : c.status = .waiting) (hr : c.request base store = .ok request)
    (hs : transport.send request s = (.ok response, s')) :
    c.executedBody? transport base store s = c.checkedBody? response := by
  simp [executedBody?, c.not_isFinal_of_waiting hw, hr, hs, Except.toOption]

/-- An execution changes the variables by what it captures. -/
theorem store_execute (c : Case) (store : Store) (s : σ) :
    (c.execute transport base store s).2.1 = store.insertAll (c.captures transport base store s) := by
  by_cases hw : c.status = .waiting
  · have hfinal := c.not_isFinal_of_waiting hw
    rcases execute_cases transport base c store s hw with
      ⟨why, hr, h⟩ | ⟨request, e, s', hr, hs, h⟩ | ⟨request, response, s', hr, hs, h⟩ <;> rw [h]
    · simp [captures, executedBody?, hfinal, hr, Except.toOption, Table.insertAll]
    · simp [captures, executedBody?, hfinal, hr, hs, Except.toOption, Table.insertAll]
    · rw [store_judge, captures, executedBody?_of_answered transport base c store s hw hr hs]
      cases c.checkedBody? response <;> rfl
  · have hfinal := c.isFinal_iff_ne_waiting.2 hw
    rw [execute_of_isFinal transport base c store s hfinal]
    simp [captures, executedBody?, hfinal, Table.insertAll]

/-- What is captured is not empty, and its name is that of a capture of an expected field. -/
theorem of_mem_captures {c : Case} {store : Store} {s : σ} {w : String × String}
    (h : w ∈ c.captures transport base store s) :
    c.status = .waiting ∧ (∃ f ∈ c.expected.entries, f.2.capture = some w.1) ∧ w.2 ≠ "" := by
  unfold captures at h
  split at h
  · next body hbody =>
      obtain ⟨⟨f, hf, hcapture⟩, hne⟩ := of_mem_fieldWrites h
      obtain ⟨rest, hsplit, -⟩ := exists_rest_metFields body c.expected.entries store
      have hexpected : f ∈ c.expected.entries := by
        rw [hsplit]
        exact List.mem_append_left rest hf
      refine ⟨?_, ⟨f, hexpected, hcapture⟩, hne⟩
      by_cases hw : c.status = .waiting
      · exact hw
      · have hfinal := c.isFinal_iff_ne_waiting.2 hw
        simp [executedBody?, hfinal] at hbody
  · cases h

end

end Case

end Probe
