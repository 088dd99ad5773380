import Mathlib.Logic.Basic
import Probe.Http.Script
import Probe.Proofs.Case.Captures
import Probe.Proofs.Except

/-!
# Verdicts

A response is judged by checks in order: the expected status, the forbidden one, the content type, whether
the body can be read, whether it is empty, and the expected fields. Each verdict has its own condition on
the response, and no two of these hold of the same response. Main statements:

* `judge_of_firstFailure`, `judge_of_unreadable`, `judge_of_passes`: the verdict under each condition.
* `judge_cases`, `status_judge_iff`: one of the conditions holds, and the verdict tells which one.
* `verdict_law`: which executions end in which verdict, and what they leave of the variables.
-/

namespace Probe

theorem Json.Value.get?_eq_some_iff (body observed : Json.Value) (name : String) :
    body.get? name = some observed ↔
      ∃ members, body = .object members ∧ Entries.get? name members = some observed := by
  cases body <;> simp [get?]

namespace Case

/-- A response has the status that is expected, if one is. -/
def MeetsExpected (c : Case) (r : Response) : Prop :=
  ∀ status, c.expectedStatus = some status → r.status = status

/-- A response has another status than the one that is forbidden, if one is. -/
def MeetsForbidden (c : Case) (r : Response) : Prop :=
  ∀ status, c.forbiddenStatus = some status → r.status ≠ status

/-- A response comes as far as its body: both statuses are as they have to be, and the content type says that
the body is JSON. What reading the body comes to is given. -/
structure Delivers (c : Case) (r : Response) (read : Except Json.ReadError Json.Value) : Prop where
  expected : c.MeetsExpected r
  forbidden : c.MeetsForbidden r
  isJson : r.isJson = true
  json : r.json = read

/-- A body meets an expected field, with the variables given: it is an object that holds something for the
name, which does not count as absent and which the expectation accepts. -/
def FieldMet (body : Json.Value) (f : Field) (store : Store) : Prop :=
  ∃ members observed, body = .object members ∧ Entries.get? f.1 members = some observed ∧
    observed.isFalsy = false ∧ (f.2.validate observed store).1 = true

/-- A body meets expected fields in order, each with what the fields before it have captured. -/
def FieldsMet (body : Json.Value) (fields : List Field) (store : Store) : Prop :=
  ∀ earlier f later, fields = earlier ++ f :: later →
    FieldMet body f (store.insertAll (fieldWrites body earlier))

/-- A response passes every check. -/
def Passes (c : Case) (r : Response) (store : Store) : Prop :=
  ∃ body, c.Delivers r (.ok body) ∧
    (body.isFalsy = true ∧ c.expected.entries = [] ∨
      body.isFalsy = false ∧ FieldsMet body c.expected.entries store)

/-- The first check that a response does not pass, all those before it being passed. -/
inductive FirstFailure (c : Case) (r : Response) (store : Store) : Failure → Prop where
  | status {expected : Nat} (hasked : c.expectedStatus = some expected) (hother : r.status ≠ expected) :
      FirstFailure c r store (.status expected r.status)
  | forbiddenStatus {forbidden : Nat} (hexpected : c.MeetsExpected r)
      (hasked : c.forbiddenStatus = some forbidden) (hsame : r.status = forbidden) :
      FirstFailure c r store (.forbiddenStatus forbidden)
  | notJson (hexpected : c.MeetsExpected r) (hforbidden : c.MeetsForbidden r) (hjson : r.isJson = false) :
      FirstFailure c r store .notJson
  | emptyBody {body : Json.Value} (hbody : c.Delivers r (.ok body)) (hempty : body.isFalsy = true)
      (hfields : c.expected.entries ≠ []) : FirstFailure c r store .emptyBody
  | missingField {body : Json.Value} {earlier later : List Field} {f : Field}
      (hbody : c.Delivers r (.ok body)) (hfull : body.isFalsy = false)
      (hfields : c.expected.entries = earlier ++ f :: later) (hearlier : FieldsMet body earlier store)
      (habsent : ∀ observed, body.get? f.1 = some observed → observed.isFalsy = true) :
      FirstFailure c r store (.missingField f.1)
  | wrongField {body observed : Json.Value} {earlier later : List Field} {f : Field}
      (hbody : c.Delivers r (.ok body)) (hfull : body.isFalsy = false)
      (hfields : c.expected.entries = earlier ++ f :: later) (hearlier : FieldsMet body earlier store)
      (hpresent : body.get? f.1 = some observed) (hsolid : observed.isFalsy = false)
      (hrejected : (f.2.validate observed (store.insertAll (fieldWrites body earlier))).1 = false) :
      FirstFailure c r store (.wrongField f.1 (f.2.resolve (store.insertAll (fieldWrites body earlier)))
        observed.text)

/-! ## Fields -/

theorem fieldMet_iff (body : Json.Value) (f : Field) (store : Store) :
    FieldMet body f store ↔ isMet body f store = true := by
  unfold FieldMet isMet
  constructor
  · rintro ⟨members, observed, rfl, hget, hsolid, haccepted⟩
    have hpresent : (Json.Value.object members).present? f.1 = some observed :=
      (Json.Value.present?_eq_some_iff _ _ _).2 ⟨hget, hsolid⟩
    rw [hpresent]
    exact haccepted
  · intro h
    split at h
    · next observed hpresent =>
        obtain ⟨hget, hsolid⟩ := (Json.Value.present?_eq_some_iff _ _ _).1 hpresent
        obtain ⟨members, hbody, hget⟩ := (Json.Value.get?_eq_some_iff _ _ _).1 hget
        exact ⟨members, observed, hbody, hget, hsolid, h⟩
    · cases h

theorem fieldsMet_iff (body : Json.Value) (fields : List Field) (store : Store) :
    FieldsMet body fields store ↔ AllMet body fields store := by
  simp only [FieldsMet, AllMet, fieldMet_iff]

/-- Fields that are all met pass. -/
theorem checkFields_of_fieldsMet {body : Json.Value} {fields : List Field} {store : Store}
    (h : FieldsMet body fields store) : (checkFields body fields store).1 = none := by
  have hpassed := checkFields_append body fields [] store ((fieldsMet_iff _ _ _).1 h)
  rw [List.append_nil] at hpassed
  rw [hpassed]
  rfl

/-- The first field that is not met ends the checks. -/
theorem checkFields_of_not_met {body : Json.Value} {earlier later : List Field} {f : Field} {store : Store}
    (hearlier : FieldsMet body earlier store)
    (hf : isMet body f (store.insertAll (fieldWrites body earlier)) = false) :
    (checkFields body (earlier ++ f :: later) store).1 =
      some (failureOf body f (store.insertAll (fieldWrites body earlier))) := by
  rw [checkFields_append body earlier (f :: later) store ((fieldsMet_iff _ _ _).1 hearlier),
    checkFields_cons, hf, if_neg Bool.false_ne_true]

theorem fieldsMet_or_not (body : Json.Value) (fields : List Field) (store : Store) :
    FieldsMet body fields store ∨
      ∃ earlier f later, fields = earlier ++ f :: later ∧ FieldsMet body earlier store ∧
        isMet body f (store.insertAll (fieldWrites body earlier)) = false := by
  obtain ⟨rest, hsplit, hnext⟩ := exists_rest_metFields body fields store
  have hmet := (fieldsMet_iff _ _ _).2 (allMet_metFields body fields store)
  cases rest with
  | nil =>
      left
      rw [List.append_nil] at hsplit
      rwa [← hsplit] at hmet
  | cons f later => exact .inr ⟨_, f, later, hsplit, hmet, hnext f rfl⟩

/-! ## Statuses -/

theorem statusFailure?_of_expected {c : Case} {r : Response} {expected : Nat}
    (hasked : c.expectedStatus = some expected) (hother : r.status ≠ expected) :
    c.statusFailure? r = some (.status expected r.status) := by
  simp [statusFailure?, hasked, hother]

theorem statusFailure?_of_forbidden {c : Case} {r : Response} {forbidden : Nat}
    (hexpected : c.MeetsExpected r) (hasked : c.forbiddenStatus = some forbidden)
    (hsame : r.status = forbidden) : c.statusFailure? r = some (.forbiddenStatus forbidden) := by
  subst hsame
  unfold statusFailure?
  cases he : c.expectedStatus with
  | none => simp [hasked]
  | some expected => simp [hasked, hexpected expected he]

theorem statusFailure?_eq_none {c : Case} {r : Response} (hexpected : c.MeetsExpected r)
    (hforbidden : c.MeetsForbidden r) : c.statusFailure? r = none := by
  have hnot : ¬ c.forbiddenStatus = some r.status := fun h => hforbidden _ h rfl
  unfold statusFailure?
  cases he : c.expectedStatus with
  | none => simp [hnot]
  | some expected =>
      obtain rfl := hexpected expected he
      simp [hnot]

theorem statusFailure?_eq_none_iff (c : Case) (r : Response) :
    c.statusFailure? r = none ↔ c.MeetsExpected r ∧ c.MeetsForbidden r := by
  refine ⟨fun hnone => ?_, fun h => statusFailure?_eq_none h.1 h.2⟩
  have hexpected : c.MeetsExpected r := by
    intro expected hasked
    refine Classical.byContradiction fun hother => ?_
    rw [statusFailure?_of_expected hasked hother] at hnone
    cases hnone
  refine ⟨hexpected, fun forbidden hasked hsame => ?_⟩
  rw [statusFailure?_of_forbidden hexpected hasked hsame] at hnone
  cases hnone

/-- The body that fields are checked against is one that is read and not empty. -/
theorem delivers_of_checkedBody? {c : Case} {r : Response} {body : Json.Value}
    (h : c.checkedBody? r = some body) : c.Delivers r (.ok body) ∧ body.isFalsy = false := by
  unfold checkedBody? at h
  split at h
  · next hstatus hjson hread =>
      obtain ⟨hexpected, hforbidden⟩ := (statusFailure?_eq_none_iff c r).1 hstatus
      split at h
      · cases h
      · next hfull =>
          obtain rfl := Option.some.inj h
          exact ⟨⟨hexpected, hforbidden, hjson, hread⟩, by simpa using hfull⟩
  · cases h

/-! ## Judgements -/

theorem judge_of_delivers {c : Case} {r : Response} {read : Except Json.ReadError Json.Value} (store : Store)
    (h : c.Delivers r read) :
    c.judge r store =
      match read with
      | .ok body => c.judgeBody body store
      | .error e => (.error (.unreadableBody e), store) := by
  rw [judge, statusFailure?_eq_none h.expected h.forbidden]
  simp only [h.isJson, if_true, h.json]
  cases read <;> rfl

/-- A body that cannot be read is an error. -/
theorem judge_of_unreadable {c : Case} {r : Response} {e : Json.ReadError} (store : Store)
    (h : c.Delivers r (.error e)) : c.judge r store = (.error (.unreadableBody e), store) :=
  judge_of_delivers store h

theorem judgeBody_of_fields {c : Case} {body : Json.Value} (store : Store) (hfull : body.isFalsy = false) :
    (c.judgeBody body store).1 =
      match (checkFields body c.expected.entries store).1 with
      | none => .passed
      | some why => .failed why (some (.json body)) := by
  rw [judgeBody, hfull, if_neg Bool.false_ne_true]
  obtain ⟨result, left, hcheck⟩ : ∃ result left, checkFields body c.expected.entries store = (result, left) :=
    ⟨_, _, rfl⟩
  rw [hcheck]
  cases result <;> rfl

/-- A response that passes every check passes. -/
theorem judge_of_passes {c : Case} {r : Response} {store : Store} (h : c.Passes r store) :
    (c.judge r store).1 = .passed := by
  obtain ⟨body, hbody, ⟨hempty, hfields⟩ | ⟨hfull, hfields⟩⟩ := h
  · rw [judge_of_delivers store hbody]
    simp [judgeBody, hempty, FieldMap.isEmpty, hfields]
  · rw [judge_of_delivers store hbody]
    simp only [judgeBody_of_fields store hfull, checkFields_of_fieldsMet hfields]

/-- A response fails by the first field that its body does not meet. -/
theorem judge_of_not_met {c : Case} {r : Response} {body : Json.Value} {store : Store}
    {earlier later : List Field} {f : Field} (hbody : c.Delivers r (.ok body)) (hfull : body.isFalsy = false)
    (hfields : c.expected.entries = earlier ++ f :: later) (hearlier : FieldsMet body earlier store)
    (hf : isMet body f (store.insertAll (fieldWrites body earlier)) = false) :
    (c.judge r store).1 =
      .failed (failureOf body f (store.insertAll (fieldWrites body earlier))) (some (.json body)) := by
  rw [judge_of_delivers store hbody]
  simp only [judgeBody_of_fields store hfull, hfields, checkFields_of_not_met hearlier hf]

/-- A response fails by the first check that it does not pass. -/
theorem judge_of_firstFailure {c : Case} {r : Response} {store : Store} {why : Failure}
    (h : c.FirstFailure r store why) : ∃ dump, (c.judge r store).1 = .failed why dump := by
  cases h with
  | status hasked hother =>
      refine ⟨some r.dump, ?_⟩
      rw [judge, statusFailure?_of_expected hasked hother]
  | forbiddenStatus hexpected hasked hsame =>
      refine ⟨some r.dump, ?_⟩
      rw [judge, statusFailure?_of_forbidden hexpected hasked hsame]
  | notJson hexpected hforbidden hjson =>
      refine ⟨none, ?_⟩
      rw [judge, statusFailure?_eq_none hexpected hforbidden]
      simp [hjson]
  | @emptyBody body hbody hempty hfields =>
      refine ⟨some (.json body), ?_⟩
      rw [judge_of_delivers store hbody]
      simp [judgeBody, hempty, FieldMap.isEmpty, hfields]
  | @missingField body earlier later f hbody hfull hfields hearlier habsent =>
      have hpresent : body.present? f.1 = none := by
        rw [Json.Value.present?, Option.filter_eq_none_iff]
        simpa using habsent
      have hjudge := judge_of_not_met hbody hfull hfields hearlier (by rw [isMet, hpresent])
      rw [failureOf, hpresent] at hjudge
      exact ⟨_, hjudge⟩
  | @wrongField body observed earlier later f hbody hfull hfields hearlier hget hsolid hrejected =>
      have hpresent := (Json.Value.present?_eq_some_iff body observed f.1).2 ⟨hget, hsolid⟩
      have hjudge := judge_of_not_met hbody hfull hfields hearlier (by rw [isMet, hpresent]; exact hrejected)
      rw [failureOf, hpresent] at hjudge
      exact ⟨_, hjudge⟩

theorem delivers_or_firstFailure (c : Case) (r : Response) (store : Store) :
    c.Delivers r r.json ∨ ∃ why, c.FirstFailure r store why := by
  by_cases hexpected : c.MeetsExpected r
  · by_cases hforbidden : c.MeetsForbidden r
    · cases hjson : r.isJson with
      | true => exact .inl ⟨hexpected, hforbidden, hjson, rfl⟩
      | false => exact .inr ⟨_, .notJson hexpected hforbidden hjson⟩
    · simp only [MeetsForbidden, not_forall, not_not] at hforbidden
      obtain ⟨forbidden, hasked, hsame⟩ := hforbidden
      exact .inr ⟨_, .forbiddenStatus hexpected hasked hsame⟩
  · simp only [MeetsExpected, not_forall] at hexpected
    obtain ⟨expected, hasked, hother⟩ := hexpected
    exact .inr ⟨_, .status hasked hother⟩

/-- A response fails a check, or its body cannot be read, or it passes. -/
theorem judge_cases (c : Case) (r : Response) (store : Store) :
    (∃ why, c.FirstFailure r store why) ∨ (∃ e, c.Delivers r (.error e)) ∨ c.Passes r store := by
  -- In the order of the checks: what stands before the body, the body, its fields.
  rcases c.delivers_or_firstFailure r store with hbody | hfailure
  · cases hread : r.json with
    | error e => exact .inr (.inl ⟨e, hread ▸ hbody⟩)
    | ok body =>
        rw [hread] at hbody
        cases hfalsy : body.isFalsy with
        | true =>
            by_cases hfields : c.expected.entries = []
            · exact .inr (.inr ⟨body, hbody, .inl ⟨hfalsy, hfields⟩⟩)
            · exact .inl ⟨_, .emptyBody hbody hfalsy hfields⟩
        | false =>
            rcases fieldsMet_or_not body c.expected.entries store with
              hmet | ⟨earlier, f, later, hfields, hearlier, hf⟩
            · exact .inr (.inr ⟨body, hbody, .inr ⟨hfalsy, hmet⟩⟩)
            · left
              cases hpresent : body.present? f.1 with
              | none =>
                  rw [Json.Value.present?, Option.filter_eq_none_iff] at hpresent
                  exact ⟨_, .missingField hbody hfalsy hfields hearlier (by simpa using hpresent)⟩
              | some observed =>
                  rw [isMet, hpresent] at hf
                  obtain ⟨hget, hsolid⟩ := (Json.Value.present?_eq_some_iff _ _ _).1 hpresent
                  exact ⟨_, .wrongField hbody hfalsy hfields hearlier hget hsolid hf⟩
  · exact .inl hfailure

/-- The verdict tells which of the conditions holds. -/
theorem status_judge_iff (c : Case) (r : Response) (store : Store) :
    ((c.judge r store).1.status = .error ↔ ∃ e, c.Delivers r (.error e)) ∧
    ((c.judge r store).1.status = .passed ↔ c.Passes r store) ∧
    ((c.judge r store).1.status = .failed ↔ ∃ why, c.FirstFailure r store why) := by
  have hfailed : (∃ why, c.FirstFailure r store why) → (c.judge r store).1.status = .failed := by
    rintro ⟨why, h⟩
    obtain ⟨dump, hjudge⟩ := judge_of_firstFailure h
    rw [hjudge]
    rfl
  have herror : (∃ e, c.Delivers r (.error e)) → (c.judge r store).1.status = .error := by
    rintro ⟨e, h⟩
    rw [judge_of_unreadable store h]
    rfl
  have hpassed : c.Passes r store → (c.judge r store).1.status = .passed :=
    fun h => congrArg Ending.status (judge_of_passes h)
  -- One of the conditions holds and fixes the verdict, so none holds that would fix another one.
  refine ⟨⟨fun hstatus => ?_, herror⟩, ⟨fun hstatus => ?_, hpassed⟩, ⟨fun hstatus => ?_, hfailed⟩⟩ <;>
    rcases c.judge_cases r store with h | h | h <;>
    first
      | exact h
      | cases hstatus.symm.trans (hfailed h)
      | cases hstatus.symm.trans (herror h)
      | cases hstatus.symm.trans (hpassed h)

/-- A response that does not come as far as the fields leaves the variables alone. -/
theorem store_judge_of_not_checked {c : Case} {r : Response} {store : Store}
    (h : ∀ body, c.Delivers r (.ok body) → body.isFalsy = true) : (c.judge r store).2 = store := by
  rw [store_judge]
  split
  · next body hchecked =>
      obtain ⟨hbody, hfull⟩ := delivers_of_checkedBody? hchecked
      rw [h body hbody] at hfull
      cases hfull
  · rfl

/-- The verdict of an execution that sends its request. It is an error exactly if the exchange fails or the
body that has come cannot be read, passed exactly if the response passes every check, and failed exactly if
there is a first check that the response does not pass, with the message of that check. A response that
does not come as far as the expected fields leaves the variables alone. -/
theorem verdict_law {σ : Type} (transport : Transport σ) (base : String) (c : Case) (store : Store) (s : σ)
    (request : Request) (hw : c.status = .waiting) (hr : c.request base store = .ok request) :
    let answer := (transport.send request s).1
    let ended := (c.execute transport base store s).1
    let left := (c.execute transport base store s).2.1
    ended.status.IsVerdict ∧
    (ended.status = .error ↔
      (∃ e, answer = .error e) ∨ ∃ r e, answer = .ok r ∧ c.Delivers r (.error e)) ∧
    (ended.status = .passed ↔ ∃ r, answer = .ok r ∧ c.Passes r store) ∧
    (ended.status = .failed ↔ ∃ r why, answer = .ok r ∧ c.FirstFailure r store why) ∧
    (∀ r why, answer = .ok r → c.FirstFailure r store why → ended.state.message = why.message) ∧
    ((∀ r body, answer = .ok r → c.Delivers r (.ok body) → body.isFalsy = true) → left = store) := by
  intro answer ended left
  have hexecute := execute_of_request transport base c store s (c.not_isFinal_of_waiting hw) hr
  have hended : ended = (c.receive store answer).1 := congrArg Prod.fst hexecute
  have hleft : left = (c.receive store answer).2 := congrArg (fun o => o.2.1) hexecute
  have hverdict : ended.status.IsVerdict := isVerdict_execute transport base c store s hw
  refine ⟨hverdict, ?_⟩
  cases hanswer : answer with
  | error e =>
      -- There is no response, so that only the first of the conditions can hold.
      rw [hanswer] at hended hleft
      have hstatus : ended.status = .error := by rw [hended]; rfl
      simp [hstatus, hleft, receive]
  | ok r =>
      rw [hanswer] at hended hleft
      have hjudged : ended = c.finish (c.judge r store).1 := hended
      have hstatus : ended.status = (c.judge r store).1.status := by rw [hjudged]; rfl
      obtain ⟨herror, hpassed, hfailed⟩ := c.status_judge_iff r store
      rw [hstatus]
      refine ⟨?_, ?_, ?_, ?_, ?_⟩
      · simpa using herror
      · simpa using hpassed
      · simpa using hfailed
      · -- A verdict alone does not tell its message, but the first failure does.
        rintro _ why ⟨rfl⟩ h
        obtain ⟨dump, hjudge⟩ := judge_of_firstFailure h
        rw [hjudged, hjudge]
        rfl
      · intro hempty
        rw [hleft]
        exact store_judge_of_not_checked fun body => hempty r body rfl

/-- A case passes whose second field is compared with what its first one captures, over a variable that
was there before; and it fails, with the message of that field, if the second one holds something else. -/
theorem verdict_law_captured :
    let id : Field := ("id", .parse "[number]>>ID")
    let copy : Field := ("copy", .parse "{ID}")
    let c := (Case.new "create" .post "/users").withExpected ⟨[id, copy]⟩ |>.expectStatus 201
    let answer (copied : String) : Response :=
      .ofJson 201 (.object [("copy", .string copied), ("id", .number (.integer 7))])
    let peer (copied : String) := Script.empty.append (.post, "/users") (.ok (answer copied))
    let store := Store.set .empty "ID" "1"
    let request : Request :=
      { method := .post, url := "http://h/users", headers := [("Content-Type", "application/json")],
        body := some "\x7b\x7d" }
    c.status = .waiting ∧ c.request "http://h" store = .ok request ∧
      (∃ r, (Script.transport.send request (peer "7")).1 = .ok r ∧ c.Passes r store) ∧
      (¬ ∃ r why, (Script.transport.send request (peer "7")).1 = .ok r ∧ c.FirstFailure r store why) ∧
      ∃ r why, (Script.transport.send request (peer "8")).1 = .ok r ∧ c.FirstFailure r store why ∧
        why.message = "Expected value 7 for key copy, got 8" := by
  intro id copy c answer peer store request
  have hw : c.status = .waiting := rfl
  have hr : c.request "http://h" store = .ok request := eq_ok_of_toOption (by decide +kernel)
  have hstatus : (c.execute Script.transport "http://h" store (peer "7")).1.status = .passed := by decide +kernel
  obtain ⟨-, -, hpassed, hfailed, -, -⟩ :=
    verdict_law Script.transport "http://h" c store (peer "7") request hw hr
  have hother : (c.execute Script.transport "http://h" store (peer "8")).1.status = .failed := by decide +kernel
  have hmessage : (c.execute Script.transport "http://h" store (peer "8")).1.state.message =
      "Expected value 7 for key copy, got 8" := by decide +kernel
  obtain ⟨-, -, -, hfailed', hmessages, -⟩ :=
    verdict_law Script.transport "http://h" c store (peer "8") request hw hr
  obtain ⟨r, why, hanswer, hwhy⟩ := hfailed'.1 hother
  refine ⟨hw, hr, hpassed.1 hstatus, fun hfailure => ?_, r, why, hanswer, hwhy, ?_⟩
  · cases hstatus.symm.trans (hfailed.2 hfailure)
  · rw [← hmessages r why hanswer hwhy]
    exact hmessage

end Case

end Probe
