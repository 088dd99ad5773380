import Probe.Proofs.Case.Captures

/-!
# What a case reads

A case reads the variables that its parameters and expected fields refer to, and the token if it is
guarded. Variables that agree on these lead to the same request, to the same judgement of a response, and
to the same captures; what else is set does not matter. Main statements:

* `request_congr`: the request, by what is read.
* `checkFields_congr`, `judge_congr`: the judgement of a response.
* `execute_congr`: an execution, by what is read and what is answered.
-/

namespace Probe

namespace Store

/-- Two stores agree on some names. -/
def AgreeOn (names : List String) (a b : Store) : Prop :=
  ∀ name ∈ names, a.get? name = b.get? name

variable {names : List String} {a b : Store}

theorem AgreeOn.subset {names' : List String} (h : AgreeOn names a b) (hsub : names' ⊆ names) :
    AgreeOn names' a b :=
  fun name hname => h name (hsub hname)

/-- The same writes keep stores in agreement. -/
theorem AgreeOn.insertAll (h : AgreeOn names a b) (writes : Writes) :
    AgreeOn names (a.insertAll writes) (b.insertAll writes) := by
  intro name hname
  rw [get?_insertAll, get?_insertAll, h name hname]

/-- Writes to other names do not matter. -/
theorem agreeOn_insertAll (a : Store) (writes : Writes) (h : ∀ w ∈ writes, w.1 ∉ names) :
    AgreeOn names a (a.insertAll writes) := by
  intro name hname
  rw [get?_insertAll]
  cases hw : writes.last? name with
  | none => rw [Option.none_or]
  | some value => exact absurd hname (h _ (Writes.mem_of_last? hw))

/-- Writes to different names may be made in either order. -/
theorem insertAll_comm (store : Store) (ws vs : Writes) (h : ∀ w ∈ ws, ∀ v ∈ vs, w.1 ≠ v.1) :
    (store.insertAll ws).insertAll vs = (store.insertAll vs).insertAll ws := by
  apply Table.ext_get?
  intro name
  rw [get?_insertAll, get?_insertAll, get?_insertAll, get?_insertAll]
  cases hw : ws.last? name with
  | none => rw [Option.none_or, Option.none_or]
  | some value =>
      cases hv : vs.last? name with
      | none => rw [Option.none_or, Option.none_or]
      | some value' =>
          have hne := h _ (Writes.mem_of_last? hw) _ (Writes.mem_of_last? hv)
          exact absurd rfl hne

end Store

/-- The variables that fields refer to. -/
def fieldReferences (fields : List Field) : List String :=
  fields.filterMap fun f => f.2.reference

namespace Expectation

theorem resolve_congr (e : Expectation) {a b : Store}
    (h : ∀ name, e.reference = some name → a.get? name = b.get? name) : e.resolve a = e.resolve b := by
  unfold resolve
  cases hr : e.reference with
  | none => rfl
  | some name => rw [Option.bind_some, Option.bind_some, h name hr]

/-- The expectation of a field resolves to the same if the variables agree on what fields refer to. -/
theorem resolve_congr_of_mem {fields : List Field} {f : Field} {a b : Store} (hf : f ∈ fields)
    (h : a.AgreeOn (fieldReferences fields) b) : f.2.resolve a = f.2.resolve b :=
  f.2.resolve_congr fun name hname => h name (List.mem_filterMap.2 ⟨f, hf, hname⟩)

end Expectation

namespace Case

/-- The fields whose texts a case resolves. -/
def resolvedFields (c : Case) : List Field :=
  c.params.entries ++ c.routeParams.entries ++ c.expected.entries

/-- The variables that a case reads: those its fields refer to, and the token if it is guarded. -/
def references (c : Case) : List String :=
  fieldReferences c.resolvedFields ++ if c.guarded then [tokenVariable] else []

/-- The variables that a case captures to. -/
def captureTargets (c : Case) : List String :=
  c.expected.entries.filterMap fun f => f.2.capture

theorem references_subset (c : Case) {fields : List Field} (h : fields ⊆ c.resolvedFields) :
    fieldReferences fields ⊆ c.references := by
  intro name hname
  obtain ⟨f, hf, hreference⟩ := List.mem_filterMap.1 hname
  exact List.mem_append_left _ (List.mem_filterMap.2 ⟨f, h hf, hreference⟩)

theorem params_subset (c : Case) : c.params.entries ⊆ c.resolvedFields := by
  intro f hf
  exact List.mem_append_left _ (List.mem_append_left _ hf)

theorem routeParams_subset (c : Case) : c.routeParams.entries ⊆ c.resolvedFields := by
  intro f hf
  exact List.mem_append_left _ (List.mem_append_right _ hf)

theorem expected_subset (c : Case) : c.expected.entries ⊆ c.resolvedFields := by
  intro f hf
  exact List.mem_append_right _ hf

/-! ## The request -/

section

variable (c : Case) {a b : Store} (h : a.AgreeOn c.references b)

include h

theorem renderBody_congr : c.renderBody a = c.renderBody b := by
  have hparams := h.subset (c.references_subset c.params_subset)
  have hmembers : c.params.entries.map (fun f => (f.1, Json.Value.string (f.2.resolve a))) =
      c.params.entries.map (fun f => (f.1, Json.Value.string (f.2.resolve b))) := by
    apply List.map_congr_left
    intro f hf
    rw [Expectation.resolve_congr_of_mem hf hparams]
  exact congrArg (fun members => (Json.Value.object (Json.membersOf members)).compact) hmembers

theorem fillSegment_congr (segment : List Char) : c.fillSegment a segment = c.fillSegment b segment := by
  have hparams := h.subset (c.references_subset c.routeParams_subset)
  unfold fillSegment
  cases he : (placeholder? segment).bind c.routeParams.get? with
  | none => rfl
  | some e =>
      obtain ⟨name, -, hget⟩ := Option.bind_eq_some_iff.1 he
      have hmem : (name, e) ∈ c.routeParams.entries := Entries.mem_of_get? hget
      have hresolve : e.resolve a = e.resolve b := Expectation.resolve_congr_of_mem hmem hparams
      simp only [hresolve]

theorem resolveRoute?_congr : c.resolveRoute? a = c.resolveRoute? b := by
  have hsegments : c.segments.map (c.fillSegment a) = c.segments.map (c.fillSegment b) :=
    List.map_congr_left fun segment _ => c.fillSegment_congr h segment
  simp only [resolveRoute?, hsegments]

/-- The request depends on the variables only by those that the case reads. -/
theorem request_congr (base : String) : c.request base a = c.request base b := by
  have htoken : c.guarded = true → a.get? tokenVariable = b.get? tokenVariable := by
    intro hguarded
    apply h
    simp [references, hguarded]
  unfold request
  rw [c.renderBody_congr h, c.resolveRoute?_congr h]
  cases hguarded : c.guarded with
  | false => rfl
  | true => rw [htoken hguarded]

theorem sends_congr (base : String) : c.sends base a = c.sends base b := by
  rw [sends, sends, c.request_congr h base]

end

/-! ## The judgement -/

theorem isMet_congr (body : Json.Value) (f : Field) {a b : Store}
    (h : f.2.resolve a = f.2.resolve b) : isMet body f a = isMet body f b := by
  unfold isMet
  cases body.present? f.1 with
  | none => rfl
  | some observed => simp only [Expectation.validate_eq, Expectation.meets, h]

theorem failureOf_congr (body : Json.Value) (f : Field) {a b : Store}
    (h : f.2.resolve a = f.2.resolve b) : failureOf body f a = failureOf body f b := by
  unfold failureOf
  rw [h]

/-- Fields are checked alike with variables that agree on what they refer to: the same one is the first
that is not met, it is told in the same way, and the same ones are met before it. -/
theorem checkFields_congr (body : Json.Value) (fields : List Field) {a b : Store}
    (h : a.AgreeOn (fieldReferences fields) b) :
    (checkFields body fields a).1 = (checkFields body fields b).1 ∧
      metFields body fields a = metFields body fields b := by
  induction fields generalizing a b with
  | nil => exact ⟨rfl, rfl⟩
  | cons f rest ih =>
      have hresolve := Expectation.resolve_congr_of_mem (List.mem_cons_self (l := rest)) h
      have hrest : a.AgreeOn (fieldReferences rest) b :=
        h.subset ((List.sublist_cons_self f rest).filterMap _).subset
      -- If the field is met, both stores get the same writes of it.
      obtain ⟨hwhy, hfields⟩ := ih (hrest.insertAll (fieldWrites body [f]))
      rw [checkFields_cons, checkFields_cons, metFields, metFields, isMet_congr body f hresolve,
        failureOf_congr body f hresolve]
      split
      · exact ⟨hwhy, congrArg (f :: ·) hfields⟩
      · exact ⟨rfl, rfl⟩

section

variable (c : Case) {a b : Store} (h : a.AgreeOn c.references b)

include h

theorem metFields_expected_congr (body : Json.Value) :
    metFields body c.expected.entries a = metFields body c.expected.entries b :=
  (checkFields_congr body _ (h.subset (c.references_subset c.expected_subset))).2

theorem judgeBody_congr (body : Json.Value) : (c.judgeBody body a).1 = (c.judgeBody body b).1 := by
  have hwhy := (checkFields_congr body _ (h.subset (c.references_subset c.expected_subset))).1
  unfold judgeBody
  split
  · rfl
  · -- What is left of the stores differs, and does not matter to the ending.
    obtain ⟨why, left, ha⟩ : ∃ why left, checkFields body c.expected.entries a = (why, left) := ⟨_, _, rfl⟩
    obtain ⟨why', left', hb⟩ : ∃ why left, checkFields body c.expected.entries b = (why, left) :=
      ⟨_, _, rfl⟩
    rw [ha, hb] at hwhy ⊢
    obtain rfl : why = why' := hwhy
    cases why <;> rfl

/-- The judgement of a response depends on the variables only by those that the case reads. -/
theorem judge_congr (r : Response) : (c.judge r a).1 = (c.judge r b).1 := by
  unfold judge
  split
  · rfl
  · split
    · split
      · exact c.judgeBody_congr h _
      · rfl
    · rfl

theorem receive_congr (answer : Except TransportError Response) :
    (c.receive a answer).1 = (c.receive b answer).1 := by
  cases answer with
  | error e => rfl
  | ok response => simp only [receive, c.judge_congr h response]

/-! ## The execution -/

variable {σ : Type} (transport : Transport σ) (base : String) (s s' : σ)
  (hanswer : ∀ request ∈ c.sends base a, (transport.send request s').1 = (transport.send request s).1)

include hanswer

theorem executedBody?_congr :
    c.executedBody? transport base b s' = c.executedBody? transport base a s := by
  unfold executedBody?
  by_cases hfinal : c.state.isFinal = true
  · rw [if_pos hfinal, if_pos hfinal]
  · rw [if_neg hfinal, if_neg hfinal, ← c.request_congr h base]
    cases hr : c.request base a with
    | error why => rfl
    | ok request =>
        rw [sends_of_request c base a hfinal hr] at hanswer
        simp [Except.toOption, hanswer request List.mem_cons_self]

/-- An execution captures the same with variables that agree on what the case reads, if its request is
answered alike, -/
theorem captures_congr : c.captures transport base b s' = c.captures transport base a s := by
  unfold captures
  rw [c.executedBody?_congr h transport base s s' hanswer]
  split
  · rw [c.metFields_expected_congr h]
  · rfl

/-- and comes to the same end. -/
theorem execute_congr :
    (c.execute transport base b s').1 = (c.execute transport base a s).1 := by
  by_cases hfinal : c.state.isFinal = true
  · rw [execute_of_isFinal transport base c a s hfinal, execute_of_isFinal transport base c b s' hfinal]
  · have hrequest := c.request_congr h base
    cases hr : c.request base a with
    | error why =>
        rw [execute_of_obstacle transport base c a s hfinal hr,
          execute_of_obstacle transport base c b s' hfinal (hrequest.symm.trans hr)]
    | ok request =>
        rw [sends_of_request c base a hfinal hr] at hanswer
        rw [execute_of_request transport base c a s hfinal hr,
          execute_of_request transport base c b s' hfinal (hrequest.symm.trans hr),
          hanswer request List.mem_cons_self, c.receive_congr h]

end

end Case

end Probe
