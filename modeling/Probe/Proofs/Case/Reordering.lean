import Mathlib.Data.List.Pairwise
import Mathlib.Data.List.Perm.Basic
import Probe.Proofs.Case.References
import Probe.Proofs.Case.Verdict

/-!
# Expected fields in another order

The expected fields of a case are checked one after the other, each with what the fields before it have
captured, and the first one that is not met ends the checks. For fields that have nothing to do with each
other's captures the order does not matter: each is met or not by itself, and what all of them capture
comes to the same variables. Main statements:

* `allMet_iff_of_apart`: such fields are all met if each is met by itself.
* `Store.insertAll_perm`: writes to different variables in another order.
* `reordering_law`: executions of a case with its expected fields in another order.
-/

namespace Probe

/-- Two expected fields have nothing to do with each other's captures: they do not capture to the same
variable, and neither refers to the variable that the other one captures to. -/
structure Field.Apart (f g : Field) : Prop where
  targets : ∀ name ∈ f.2.capture, g.2.capture ≠ some name
  right : ∀ name ∈ f.2.capture, g.2.reference ≠ some name
  left : ∀ name ∈ g.2.capture, f.2.reference ≠ some name

instance (f g : Field) : Decidable (f.Apart g) :=
  decidable_of_iff
    ((∀ name ∈ f.2.capture, g.2.capture ≠ some name) ∧ (∀ name ∈ f.2.capture, g.2.reference ≠ some name) ∧
      ∀ name ∈ g.2.capture, f.2.reference ≠ some name)
    ⟨fun h => ⟨h.1, h.2.1, h.2.2⟩, fun h => ⟨h.1, h.2, h.3⟩⟩

theorem Field.Apart.symm {f g : Field} (h : f.Apart g) : g.Apart f :=
  ⟨fun name hg hf => h.targets name hf hg, h.left, h.right⟩

/-- A verdict is known by whether it is `passed` and whether it is `error`. -/
theorem Status.IsVerdict.eq_of_iff {a b : Status} (ha : a.IsVerdict) (hb : b.IsVerdict)
    (hpassed : a = .passed ↔ b = .passed) (herror : a = .error ↔ b = .error) : a = b := by
  rcases ha with rfl | rfl | rfl <;> rcases hb with rfl | rfl | rfl <;> simp at hpassed herror ⊢

namespace Store

/-- Writes to different variables may be made in any order. -/
theorem insertAll_perm (store : Store) {ws vs : Writes} (hperm : ws.Perm vs)
    (hdistinct : ws.Pairwise fun w v => w.1 ≠ v.1) : store.insertAll ws = store.insertAll vs := by
  have hcomm : ∀ w ∈ ws, ∀ v ∈ ws, ∀ a : Store,
      (a.insert w.1 w.2).insert v.1 v.2 = (a.insert v.1 v.2).insert w.1 w.2 := by
    intro w hw v hv a
    by_cases hsame : w = v
    · rw [hsame]
    · have hsymm : Std.Symm fun w v : String × String => w.1 ≠ v.1 := ⟨fun _ _ h => h.symm⟩
      have hne : w.1 ≠ v.1 := hdistinct.forall hw hv hsame
      exact insertAll_comm a [w] [v] (by simpa using hne)
  exact hperm.foldl_eq' hcomm store

end Store

namespace Case

/-! ## Fields by themselves -/

/-- Whether a field is met does not depend on variables that it does not refer to. -/
theorem isMet_insertAll (body : Json.Value) (f : Field) (store : Store) (writes : Writes)
    (h : ∀ w ∈ writes, f.2.reference ≠ some w.1) :
    isMet body f (store.insertAll writes) = isMet body f store := by
  apply isMet_congr
  apply Expectation.resolve_congr
  intro name hname
  have hother : ∀ w ∈ writes, w.1 ∉ [name] := by
    intro w hw hmem
    rw [← List.mem_singleton.1 hmem] at hname
    exact h w hw hname
  exact (store.agreeOn_insertAll writes hother name (List.mem_singleton_self name)).symm

/-- Fields that are apart are all met if each is met by itself. -/
theorem allMet_iff_of_apart (body : Json.Value) (fields : List Field) (store : Store)
    (hapart : fields.Pairwise Field.Apart) :
    AllMet body fields store ↔ ∀ f ∈ fields, isMet body f store = true := by
  induction fields generalizing store with
  | nil => simp [AllMet]
  | cons f rest ih =>
      obtain ⟨hf, hrest⟩ := List.pairwise_cons.1 hapart
      -- What `f` captures, no later field refers to.
      have hsame : ∀ g ∈ rest,
          isMet body g (store.insertAll (fieldWrites body [f])) = isMet body g store := by
        intro g hg
        apply isMet_insertAll
        intro w hw
        obtain ⟨⟨f', hmem, hcapture⟩, -⟩ := of_mem_fieldWrites hw
        rw [List.mem_singleton.1 hmem] at hcapture
        exact (hf g hg).right w.1 hcapture
      rw [allMet_cons_iff, ih _ hrest, List.forall_mem_cons]
      exact and_congr_right fun _ => forall₂_congr fun g hg => by rw [hsame g hg]

/-- Fields that are apart capture to different variables. -/
theorem pairwise_fieldWrites (body : Json.Value) (fields : List Field)
    (hapart : fields.Pairwise Field.Apart) :
    (fieldWrites body fields).Pairwise fun w v => w.1 ≠ v.1 := by
  rw [fieldWrites, List.pairwise_filterMap]
  refine hapart.imp ?_
  rintro f g hfg ⟨name, text⟩ hw ⟨name', text'⟩ hv rfl
  simp only [Option.bind_eq_bind, Option.bind_eq_some_iff, Option.some.injEq,
    Prod.mk.injEq] at hw hv
  obtain ⟨_, hf, observed, -, rfl, -⟩ := hw
  obtain ⟨_, hg, observed', -, rfl, -⟩ := hv
  exact hfg.targets _ hf hg

theorem metFields_of_allMet {body : Json.Value} {fields : List Field} {store : Store}
    (h : AllMet body fields store) : metFields body fields store = fields := by
  induction fields generalizing store with
  | nil => rfl
  | cons f rest ih =>
      obtain ⟨hf, hrest⟩ := (allMet_cons_iff body f rest store).1 h
      rw [metFields, if_pos hf, ih hrest]

/-! ## Judgements and executions -/

section

variable (c : Case) {fields : List Field} (hperm : fields.Perm c.expected.entries)
  (hapart : c.expected.entries.Pairwise Field.Apart)

include hperm hapart

theorem fieldsMet_perm (body : Json.Value) (store : Store) :
    FieldsMet body fields store ↔ FieldsMet body c.expected.entries store := by
  have hapart' : fields.Pairwise Field.Apart :=
    (hperm.pairwise_iff fun h => h.symm).2 hapart
  rw [fieldsMet_iff, fieldsMet_iff, allMet_iff_of_apart body _ store hapart',
    allMet_iff_of_apart body _ store hapart]
  exact forall_congr' fun f => by rw [hperm.mem_iff]

/-- A response passes in one order exactly if it does in the other. -/
theorem passes_withExpected_iff (r : Response) (store : Store) :
    (c.withExpected ⟨fields⟩).Passes r store ↔ c.Passes r store := by
  have hempty : fields = [] ↔ c.expected.entries = [] := by
    rw [← List.length_eq_zero_iff, hperm.length_eq, List.length_eq_zero_iff]
  unfold Passes
  refine exists_congr fun body => and_congr ⟨fun h => ⟨h.1, h.2, h.3, h.4⟩, fun h => ⟨h.1, h.2, h.3, h.4⟩⟩ ?_
  exact or_congr (and_congr_right fun _ => hempty)
    (and_congr_right fun _ => c.fieldsMet_perm hperm hapart body store)

/-- A response gets the same verdict in either order. -/
theorem status_judge_withExpected (r : Response) (store : Store) :
    ((c.withExpected ⟨fields⟩).judge r store).1.status = (c.judge r store).1.status := by
  obtain ⟨herror, hpassed, -⟩ := c.status_judge_iff r store
  obtain ⟨herror', hpassed', -⟩ := (c.withExpected ⟨fields⟩).status_judge_iff r store
  rw [c.passes_withExpected_iff hperm hapart] at hpassed'
  have hunreadable : (∃ e, (c.withExpected ⟨fields⟩).Delivers r (.error e)) ↔
      ∃ e, c.Delivers r (.error e) :=
    exists_congr fun e => ⟨fun h => ⟨h.1, h.2, h.3, h.4⟩, fun h => ⟨h.1, h.2, h.3, h.4⟩⟩
  rw [hunreadable] at herror'
  exact (isVerdict_judge _ r store).status.eq_of_iff (isVerdict_judge c r store).status
    (hpassed'.trans hpassed.symm) (herror'.trans herror.symm)

/-- A response that passes leaves the same variables in either order. -/
theorem store_judge_withExpected (r : Response) (store : Store) (hpasses : c.Passes r store) :
    ((c.withExpected ⟨fields⟩).judge r store).2 = (c.judge r store).2 := by
  have hchecked : (c.withExpected ⟨fields⟩).checkedBody? r = c.checkedBody? r := rfl
  rw [store_judge, store_judge, hchecked]
  cases hbody : c.checkedBody? r with
  | none => rfl
  | some body =>
      obtain ⟨hdelivers, hfull⟩ := delivers_of_checkedBody? hbody
      obtain ⟨body', hdelivers', hverdict⟩ := hpasses
      obtain rfl : body = body' := Except.ok.inj (hdelivers.json.symm.trans hdelivers'.json)
      have hmet : FieldsMet body c.expected.entries store := by
        rcases hverdict with ⟨hempty, -⟩ | ⟨-, hmet⟩
        · rw [hfull] at hempty
          cases hempty
        · exact hmet
      have hmet' := (c.fieldsMet_perm hperm hapart body store).2 hmet
      have hfields := metFields_of_allMet ((fieldsMet_iff _ _ _).1 hmet)
      have hfields' := metFields_of_allMet ((fieldsMet_iff _ _ _).1 hmet')
      simp only [withExpected, hfields, hfields']
      exact (store.insertAll_perm (hperm.symm.filterMap _) (pairwise_fieldWrites body _ hapart)).symm

/-- A case whose expected fields are put in another order ends with the same status, if the fields have
nothing to do with each other's captures, and asks its transport for the same. If it passes, it leaves the
same variables. -/
theorem reordering_law {σ : Type} (transport : Transport σ) (base : String) (store : Store) (s : σ) :
    let one := c.execute transport base store s
    let other := (c.withExpected ⟨fields⟩).execute transport base store s
    other.1.status = one.1.status ∧ (one.1.status = .passed → other.2.1 = one.2.1) ∧ other.2.2 = one.2.2 := by
  intro one other
  by_cases hfinal : c.state.isFinal = true
  · have hone : one = (c, store, s) := execute_of_isFinal transport base c store s hfinal
    have hother : other = (c.withExpected ⟨fields⟩, store, s) :=
      execute_of_isFinal transport base (c.withExpected ⟨fields⟩) store s hfinal
    rw [hone, hother]
    exact ⟨rfl, fun _ => rfl, rfl⟩
  · -- Nothing that is sent depends on the expected fields: both orders meet the same obstacle, or get the same
    -- answer, and differ at most in how they judge it.
    cases hr : c.request base store with
    | error why =>
        have hone : one = (c.finish (.error why), store, s) :=
          execute_of_obstacle transport base c store s hfinal hr
        have hother : other = ((c.withExpected ⟨fields⟩).finish (.error why), store, s) :=
          execute_of_obstacle transport base (c.withExpected ⟨fields⟩) store s hfinal hr
        rw [hone, hother]
        exact ⟨rfl, fun _ => rfl, rfl⟩
    | ok request =>
        have hone : one = _ := execute_of_request transport base c store s hfinal hr
        have hother : other = _ :=
          execute_of_request transport base (c.withExpected ⟨fields⟩) store s hfinal hr
        rw [hone, hother]
        cases (transport.send request s).1 with
        | error e => exact ⟨rfl, fun _ => rfl, rfl⟩
        | ok r =>
            refine ⟨c.status_judge_withExpected hperm hapart r store, fun hpassed => ?_, rfl⟩
            have hpasses : c.Passes r store := (c.status_judge_iff r store).2.1.1 hpassed
            exact c.store_judge_withExpected hperm hapart r store hpasses

end

/-- A field that compares and captures, one that captures what a tag accepts, and one that only compares: in
the other order the case passes as well, and leaves the same variables. -/
theorem reordering_law_captured :
    let name : Field := ("name", .parse "{NAME}>>LAST")
    let id : Field := ("id", .parse "[number]>>ID")
    let role : Field := ("role", .parse "{ROLE}")
    let c := (Case.new "create" .post "/users").withExpected ⟨[name, id, role]⟩
    let body : Json.Value :=
      .object [("id", .number (.integer 7)), ("name", .string "ada"), ("role", .string "admin")]
    let peer := Script.empty.append (.post, "/users") (.ok (.ofJson 201 body))
    let store := Store.set (Store.set .empty "NAME" "ada") "ROLE" "admin"
    let one := c.execute Script.transport "http://h" store peer
    let other := (c.withExpected ⟨[role, id, name]⟩).execute Script.transport "http://h" store peer
    [role, id, name].Perm c.expected.entries ∧ c.expected.entries.Pairwise Field.Apart ∧
      other.1.status = .passed ∧ other.2.1 = one.2.1 ∧ one.2.1.get? "LAST" = some "ada" ∧
      one.2.1.get? "ID" = some "7" := by
  intro name id role c body peer store one other
  have hperm : [role, id, name].Perm c.expected.entries := by decide +kernel
  have hapart : c.expected.entries.Pairwise Field.Apart := by decide +kernel
  have hpassed : one.1.status = .passed := by decide +kernel
  obtain ⟨hstatus, hstore, -⟩ := c.reordering_law hperm hapart Script.transport "http://h" store peer
  exact ⟨hperm, hapart, hstatus.trans hpassed, hstore hpassed, by decide +kernel, by decide +kernel⟩

end Case

end Probe
