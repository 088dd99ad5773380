import Mathlib.Logic.Relation
import Probe.Proofs.Run.Order
import Probe.Proofs.Run.Turns

/-!
# Misplaced cases

A case is misplaced if no earlier case has the identifier of one of its dependencies, or if one has its own.
A list of cases is refused exactly if a case is misplaced, and the fault that is reported is that of the first
of these. The dependencies of an accepted list have no cycles. Main statements:

* `wellOrdered_iff`: cases can be run in their order exactly if none is misplaced.
* `validateAfter_eq_error_iff`: a list is refused for the first case that cannot come behind the ones before it.
* `Acyclic.of_validate`: dependencies lead to earlier cases, so that they never lead back.
* `ordering_law`: which lists are accepted, and what is reported of the others.
-/

namespace Probe.Order

/-- The identifiers of the cases before a position. -/
def idsBefore (cases : List Case) (i : Nat) : List String :=
  (cases.take i).map Case.id

/-- A case cannot come behind cases of the identifiers `earlier`. -/
def Misplaced (earlier : List String) (c : Case) : Prop :=
  (∃ d ∈ c.dependencies, d ∉ earlier) ∨ c.id ∈ earlier

instance (earlier : List String) (c : Case) : Decidable (Misplaced earlier c) :=
  inferInstanceAs (Decidable ((∃ d ∈ c.dependencies, d ∉ earlier) ∨ c.id ∈ earlier))

/-- What is reported of a case that cannot come behind cases of the identifiers `earlier`. Its dependencies are
looked at in their order, and its own identifier after them. -/
inductive Reported (earlier : List String) (c : Case) : OrderError → Prop where
  | undeclared {declared rest : List String} {d : String} (hdeps : c.dependencies = declared ++ d :: rest)
      (hdeclared : ∀ b ∈ declared, b ∈ earlier) (hd : d ∉ earlier) : Reported earlier c (.undeclared c.id d)
  | duplicate (hdeps : ∀ d ∈ c.dependencies, d ∈ earlier) (hid : c.id ∈ earlier) :
      Reported earlier c (.duplicate c.id)

/-- The first misplaced case of a list, and its position. -/
structure FirstMisplaced (cases : List Case) (i : Nat) (c : Case) : Prop where
  here : cases[i]? = some c
  misplaced : Misplaced (idsBefore cases i) c
  least : ∀ j b, j < i → cases[j]? = some b → ¬ Misplaced (idsBefore cases j) b

/-- The case of one identifier has the other one among its dependencies. -/
def DependsOn (cases : List Case) (id dependency : String) : Prop :=
  ∃ c ∈ cases, c.id = id ∧ dependency ∈ c.dependencies

/-- Going from cases to their dependencies never leads back. -/
def Acyclic (cases : List Case) : Prop :=
  ∀ id, ¬ Relation.TransGen (DependsOn cases) id id

/-! ## Positions -/

/-- What is before a position does not hang on what comes behind it. -/
theorem idsBefore_append_of_le (before rest : List Case) {i : Nat} (h : i ≤ before.length) :
    idsBefore (before ++ rest) i = idsBefore before i := by
  rw [idsBefore, idsBefore, List.take_append_of_le_length h]

theorem idsBefore_append (before rest : List Case) :
    idsBefore (before ++ rest) before.length = before.map Case.id := by
  rw [idsBefore, List.take_left]

theorem mem_idsBefore_iff {cases : List Case} {i : Nat} {id : String} :
    id ∈ idsBefore cases i ↔ ∃ j b, j < i ∧ cases[j]? = some b ∧ b.id = id := by
  rw [idsBefore, List.mem_map]
  simp only [List.mem_iff_getElem? (l := cases.take i), List.getElem?_take, Option.ite_none_right_eq_some]
  constructor
  · rintro ⟨b, ⟨j, hj, hb⟩, hid⟩
    exact ⟨j, b, hj, hb, hid⟩
  · rintro ⟨j, b, hj, hb, hid⟩
    exact ⟨b, ⟨j, hj, hb⟩, hid⟩

theorem getElem?_split (before after : List Case) (c : Case) :
    (before ++ c :: after)[before.length]? = some c := by
  rw [List.getElem?_append_right (Nat.le_refl _), Nat.sub_self, List.getElem?_cons_zero]

theorem WellOrdered.not_misplaced {before after : List Case} {c : Case}
    (h : WellOrdered [] (before ++ c :: after)) : ¬ Misplaced (before.map Case.id) c := by
  have hnodup := h.nodup
  rintro (⟨d, hd, hearlier⟩ | hid)
  · exact hearlier ((h.backward before c after rfl d hd).resolve_left List.not_mem_nil)
  · rw [List.map_append, List.map_cons] at hnodup
    exact (List.nodup_append.1 hnodup).2.2 c.id hid c.id List.mem_cons_self rfl

/-- Cases can be run in their order exactly if none of them is misplaced. -/
theorem wellOrdered_iff (cases : List Case) :
    WellOrdered [] cases ↔ ∀ i c, cases[i]? = some c → ¬ Misplaced (idsBefore cases i) c := by
  constructor
  · intro h i c hi
    obtain ⟨before, after, rfl, rfl⟩ := exists_split_of_getElem? hi
    rw [idsBefore_append]
    exact h.not_misplaced
  · intro h
    refine ⟨?_, fun c _ => List.not_mem_nil, ?_⟩
    · refine List.pairwise_map.2 (List.pairwise_iff_getElem.2 fun i j hi hj hij heq => ?_)
      have hbefore : cases[i].id ∈ idsBefore cases j :=
        mem_idsBefore_iff.2 ⟨i, cases[i], hij, List.getElem?_eq_getElem hi, rfl⟩
      exact h j cases[j] (List.getElem?_eq_getElem hj) (.inr (heq ▸ hbefore))
    · intro before c after heq d hd
      subst heq
      have hplaced := h before.length c (getElem?_split before after c)
      rw [idsBefore_append] at hplaced
      exact .inr (Classical.not_not.1 fun hearlier => hplaced (.inl ⟨d, hd, hearlier⟩))

/-! ## The fault that is reported -/

theorem checkCase_eq_error_iff (seen : List String) (c : Case) (e : OrderError) :
    checkCase seen c = .error e ↔ Reported seen c e := by
  unfold checkCase
  constructor
  · intro h
    split at h
    · next d hfind =>
        cases h
        obtain ⟨hd, declared, rest, hdeps, hdeclared⟩ := List.find?_eq_some_iff_append.1 hfind
        exact .undeclared hdeps (fun b hb => by simpa using hdeclared b hb) (by simpa using hd)
    · next hnone =>
        split at h
        · next hid =>
            cases h
            exact .duplicate (by simpa using hnone) (by simpa using hid)
        · cases h
  · rintro (⟨hdeps, hdeclared, hd⟩ | ⟨hdeps, hid⟩)
    · rename_i declared rest d
      have hfind : c.dependencies.find? (fun d => !seen.contains d) = some d :=
        List.find?_eq_some_iff_append.2 ⟨by simpa using hd, declared, rest, hdeps, by simpa using hdeclared⟩
      rw [hfind]
    · have hnone : c.dependencies.find? (fun d => !seen.contains d) = none := by simpa using hdeps
      rw [hnone, if_pos (by simpa using hid)]

theorem Reported.misplaced {earlier : List String} {c : Case} {e : OrderError} (h : Reported earlier c e) :
    Misplaced earlier c := by
  cases h with
  | undeclared hdeps _ hd => exact .inl ⟨_, hdeps ▸ List.mem_append_right _ List.mem_cons_self, hd⟩
  | duplicate _ hid => exact .inr hid

/-- What is reported of a case hangs only on which identifiers are earlier. -/
theorem Reported.of_mem_iff {a b : List String} {c : Case} {e : OrderError} (h : ∀ id, id ∈ a ↔ id ∈ b)
    (hr : Reported a c e) : Reported b c e := by
  cases hr with
  | undeclared hdeps hdeclared hd =>
      exact .undeclared hdeps (fun d hmem => (h d).1 (hdeclared d hmem)) (mt (h _).2 hd)
  | duplicate hdeps hid => exact .duplicate (fun d hmem => (h d).1 (hdeps d hmem)) ((h _).1 hid)

/-- A list is refused for the first case that cannot come behind the ones before it. -/
theorem validateAfter_eq_error_iff (seen : List String) (cases : List Case) (e : OrderError) :
    validateAfter seen cases = .error e ↔
      ∃ before c after, cases = before ++ c :: after ∧ validateAfter seen before = .ok () ∧
        Reported ((before.map Case.id).reverse ++ seen) c e := by
  constructor
  · intro h
    induction cases generalizing seen with
    | nil => cases h
    | cons c rest ih =>
        rw [validateAfter] at h
        cases hcheck : checkCase seen c with
        | error e' =>
            rw [hcheck] at h
            cases h
            exact ⟨[], c, rest, rfl, rfl, (checkCase_eq_error_iff seen c e).1 hcheck⟩
        | ok u =>
            rw [hcheck] at h
            obtain ⟨before, b, after, rfl, hbefore, hb⟩ := ih (c.id :: seen) h
            refine ⟨c :: before, b, after, rfl, ?_, ?_⟩
            · rw [validateAfter, hcheck]
              exact hbefore
            · rwa [List.map_cons, List.reverse_cons, List.append_assoc]
  · rintro ⟨before, c, after, rfl, hbefore, hc⟩
    rw [validateAfter_append, hbefore]
    simp only [validateAfter, (checkCase_eq_error_iff _ c e).2 hc]

/-- The fault that is reported is that of the first misplaced case. -/
theorem validate_eq_error_iff (cases : List Case) (e : OrderError) :
    validate cases = .error e ↔ ∃ i c, FirstMisplaced cases i c ∧ Reported (idsBefore cases i) c e := by
  have hseen : ∀ (before : List Case) id,
      id ∈ (before.map Case.id).reverse ++ [] ↔ id ∈ before.map Case.id := by simp
  rw [validate, validateAfter_eq_error_iff]
  constructor
  · rintro ⟨before, c, after, rfl, hbefore, hc⟩
    have hreported : Reported (idsBefore (before ++ c :: after) before.length) c e := by
      rw [idsBefore_append]
      exact hc.of_mem_iff (hseen before)
    refine ⟨before.length, c, ⟨getElem?_split before after c, hreported.misplaced, ?_⟩, hreported⟩
    intro j b hj hb
    rw [List.getElem?_append_left hj] at hb
    rw [idsBefore_append_of_le _ _ (Nat.le_of_lt hj)]
    exact (wellOrdered_iff before).1 ((validate_eq_ok_iff before).1 hbefore) j b hb
  · rintro ⟨i, c, ⟨hc, -, hleast⟩, hreported⟩
    obtain ⟨before, after, rfl, rfl⟩ := exists_split_of_getElem? hc
    rw [idsBefore_append] at hreported
    refine ⟨before, c, after, rfl, ?_, hreported.of_mem_iff fun id => (hseen before id).symm⟩
    refine (validate_eq_ok_iff before).2 ((wellOrdered_iff before).2 fun j b hb => ?_)
    have hj : j < before.length := (List.getElem?_eq_some_iff.1 hb).1
    have hplaced := hleast j b hj (by rwa [List.getElem?_append_left hj])
    rwa [idsBefore_append_of_le _ _ (Nat.le_of_lt hj)] at hplaced

/-! ## Cycles -/

/-- A dependency is the identifier of an earlier case. -/
theorem DependsOn.idxOf_lt {cases : List Case} (h : WellOrdered [] cases) {id d : String}
    (hd : DependsOn cases id d) : (cases.map Case.id).idxOf d < (cases.map Case.id).idxOf id := by
  obtain ⟨c, hc, rfl, hd⟩ := hd
  obtain ⟨before, after, rfl⟩ := List.append_of_mem hc
  have hearlier : d ∈ before.map Case.id := (h.backward before c after rfl d hd).resolve_left List.not_mem_nil
  have hown : c.id ∉ before.map Case.id := fun hid => h.not_misplaced (.inr hid)
  rw [List.map_append, List.map_cons, List.idxOf_append, List.idxOf_append, if_pos hearlier, if_neg hown,
    List.idxOf_cons_self, Nat.zero_add]
  exact List.idxOf_lt_length_of_mem hearlier

/-- Dependencies lead to earlier cases, so that they never lead back. -/
theorem Acyclic.of_wellOrdered {cases : List Case} (h : WellOrdered [] cases) : Acyclic cases := by
  have hlater : ∀ id d, Relation.TransGen (DependsOn cases) id d →
      (cases.map Case.id).idxOf d < (cases.map Case.id).idxOf id := by
    intro id d hpath
    induction hpath with
    | single hd => exact hd.idxOf_lt h
    | tail _ hd ih => exact Nat.lt_trans (hd.idxOf_lt h) ih
  exact fun id hcycle => Nat.lt_irrefl _ (hlater id id hcycle)

theorem Acyclic.not_mem_dependencies {cases : List Case} (h : Acyclic cases) {c : Case} (hc : c ∈ cases) :
    c.id ∉ c.dependencies :=
  fun hself => h c.id (.single ⟨c, hc, rfl, hself⟩)

/-! ## Orders -/

/-- A list is accepted exactly if its identifiers are distinct and every dependency is the identifier of a
strictly earlier case. Of any other list the first misplaced case is reported, by its first dependency that is
not declared before it, or by its own identifier if there is none. In an accepted list dependencies have no
cycles, and no case depends on itself. -/
theorem ordering_law (cases : List Case) :
    (validate cases = .ok () ↔ (cases.map Case.id).Nodup ∧
      ∀ (i : Nat) (c : Case), cases[i]? = some c → ∀ d ∈ c.dependencies,
        ∃ (j : Nat) (b : Case), j < i ∧ cases[j]? = some b ∧ b.id = d) ∧
    (∀ e, validate cases = .error e ↔
      ∃ i c, FirstMisplaced cases i c ∧ Reported (idsBefore cases i) c e) ∧
    (validate cases = .ok () → Acyclic cases ∧ ∀ c ∈ cases, c.id ∉ c.dependencies) := by
  refine ⟨?_, validate_eq_error_iff cases, fun h => ?_⟩
  · rw [validate_eq_ok_iff]
    constructor
    · rintro ⟨hnodup, -, hback⟩
      refine ⟨hnodup, fun i c hi d hd => ?_⟩
      obtain ⟨before, after, rfl, rfl⟩ := exists_split_of_getElem? hi
      have hearlier := (hback before c after rfl d hd).resolve_left List.not_mem_nil
      rwa [← idsBefore_append before (c :: after), mem_idsBefore_iff] at hearlier
    · rintro ⟨hnodup, hback⟩
      refine ⟨hnodup, fun c _ => List.not_mem_nil, ?_⟩
      rintro before c after rfl d hd
      have hearlier := mem_idsBefore_iff.2 (hback before.length c (getElem?_split before after c) d hd)
      rw [idsBefore_append] at hearlier
      exact .inr hearlier
  · have hacyclic := Acyclic.of_wellOrdered ((validate_eq_ok_iff cases).1 h)
    exact ⟨hacyclic, fun c hc => hacyclic.not_mem_dependencies hc⟩

/-- A case that takes the identifier of an earlier one and depends on it has all its dependencies declared, so that
its identifier is reported. A case behind it that depends on a later one comes too late to be reported. -/
theorem ordering_law_twin :
    let login := Case.new "login" .post "/login"
    let user := (Case.new "user" .get "/user").dependsOn "login"
    let twin := (Case.new "login" .get "/token").dependsOn "login"
    let early := (Case.new "early" .get "/early").dependsOn "late"
    validate [login, user] = .ok () ∧ Acyclic [login, user] ∧
      FirstMisplaced [login, user, twin, early] 2 twin ∧
      validate [login, user, twin, early] = .error (.duplicate "login") := by
  intro login user twin early
  have haccepted : validate [login, user] = .ok () := rfl
  have hfirst : FirstMisplaced [login, user, twin, early] 2 twin := by
    refine ⟨rfl, .inr (by decide), ?_⟩
    intro j b hj hb
    match j, hj with
    | 0, _ => cases hb; decide
    | 1, _ => cases hb; decide
  obtain ⟨-, -, hacyclic⟩ := ordering_law [login, user]
  obtain ⟨-, hfault, -⟩ := ordering_law [login, user, twin, early]
  refine ⟨haccepted, (hacyclic haccepted).1, hfirst, (hfault _).2 ⟨2, twin, hfirst, ?_⟩⟩
  exact .duplicate (by decide) (by decide)

end Probe.Order
