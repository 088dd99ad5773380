import Probe.Proofs.Decimal.Whole
import Probe.Proofs.Expectation.Reference
import Probe.Proofs.Yaml.Places
import Probe.Suite.Build
import Probe.Suite.OfYaml

/-!
# Scalars in suite files

A scalar of a suite file may be the value of a variable or an expectation. It is read in two ways: the
value of a variable is a text, a signed integer of 64 bits, a float or a boolean, and an expectation is the
text of what the scalar stands for. Both have the same text, but for integers that only an unsigned number
of 64 bits holds: as the value of a variable they are floats. Main statements:

* `exists_texts`: the two texts of a scalar.
* `scalar_text_law`: a suite with the same scalar as the value of a variable and of fields of a case.
* `scalar_texts_differ`: a suite file in which the two texts differ.
-/

namespace Probe

open Probe.Yaml
open Probe.Decimal

/-! ## What scalars mean -/

/-- Whether something is a value: it is not the lack of one, nor an integer of more than 64 bits. -/
def Yaml.Resolved.isValue : Resolved → Bool
  | .null | .wide _ => false
  | _ => true

/-- A scalar without a local tag stands for a value. -/
structure Yaml.Scalar.Means (s : Scalar) (r : Resolved) : Prop where
  notLocal : isLocal s.tag = false
  resolve : s.resolve = .ok r
  isValue : r.isValue = true

theorem Yaml.lt_of_ofInteger? {m n : Int} (h : ofInteger? m = some (.integer n)) : n < twoTo 64 := by
  unfold ofInteger? at h
  split at h
  · next hm =>
      obtain rfl := Resolved.integer.inj (Option.some.inj h)
      exact hm.2
  · split at h
    · cases h
    · cases h

theorem Yaml.lt_of_ofPlain {text : String} {n : Int} (h : Resolved.ofPlain text = .integer n) :
    n < twoTo 64 := by
  unfold Resolved.ofPlain at h
  split at h
  · cases h
  · split at h
    · cases h
    · unfold number? at h
      cases hinteger : (integer? text.toList).bind ofInteger? with
      | some r =>
          obtain ⟨m, -, hm⟩ := Option.bind_eq_some_iff.1 hinteger
          rw [hinteger] at h
          exact lt_of_ofInteger? (hm.trans (congrArg some h))
      | none =>
          rw [hinteger] at h
          simp only at h
          split at h
          · cases h
          · cases hfloat : float? text.toList with
            | none => rw [hfloat] at h; cases h
            | some x => rw [hfloat] at h; cases h

/-- An integer that a scalar stands for has 64 bits. -/
theorem Yaml.Scalar.lt_of_resolve {s : Scalar} {n : Int} (h : s.resolve = .ok (.integer n)) :
    n < twoTo 64 := by
  have hplain : (if s.style = .plain then Resolved.ofPlain s.text else .text s.text) = .integer n →
      n < twoTo 64 := by
    intro hr
    split at hr
    · exact lt_of_ofPlain hr
    · cases hr
  unfold resolve at h
  simp only at h
  split at h
  · exact hplain (Except.ok.inj h)
  · split at h
    · split at h <;> cases h
    · split at h
      · split at h
        · next hr =>
            obtain ⟨m, -, hm⟩ := Option.bind_eq_some_iff.1 hr
            exact lt_of_ofInteger? (hm.trans (congrArg some (Except.ok.inj h)))
        · cases h
      · split at h
        · split at h <;> cases h
        · split at h
          · split at h <;> cases h
          · split at h
            · exact hplain (Except.ok.inj h)
            · cases h

/-! ## Reading a scalar -/

theorem ScalarValue.read_of_means (outer p : Place) {s : Scalar} {r : Resolved} {v : ScalarValue}
    (hnode : p.node = .scalar s) (h : s.Means r) (hv : ofResolved? r = some v) :
    read outer p = pure v := by
  have hcheck : p.checkScalar s = pure () := by
    rw [Place.checkScalar, h.notLocal, h.resolve]
    cases r with
    | wide n => cases h.isValue
    | _ => rfl
  rw [read, Place.anyValue, Place.follow_scalar hnode, pure_bind, Place.checkAny_scalar _ hnode, hcheck]
  simp only [pure_bind, hnode, h.resolve, hv]

theorem Expectation.readPlace_of_means (p : Place) {s : Scalar} {r : Resolved} {e : Expectation}
    (hnode : p.node = .scalar s) (h : s.Means r) (he : ofResolved? r = some e) :
    readPlace p = pure e := by
  rw [readPlace, Place.scalarValue_eq _ hnode, h.notLocal, h.resolve]
  simp only [Bool.false_eq_true, ↓reduceIte, pure_bind, he]

/-- A scalar that stands for no value is refused as the value of a variable, -/
theorem ScalarValue.exists_error_read (outer p : Place) {s : Scalar} (hnode : p.node = .scalar s)
    (h : ∀ r, ¬ s.Means r) : ∃ e, read outer p = throw e := by
  rw [read, Place.anyValue, Place.follow_scalar hnode, pure_bind, Place.checkAny_scalar _ hnode,
    Place.checkScalar]
  cases hlocal : isLocal s.tag with
  | true => exact ⟨_, rfl⟩
  | false =>
      cases hr : s.resolve with
      | error m => exact ⟨_, rfl⟩
      | ok r =>
          cases r with
          | wide n => exact ⟨_, rfl⟩
          | null =>
              simp only [Bool.false_eq_true, ↓reduceIte, pure_bind, hnode, hr]
              exact ⟨_, rfl⟩
          | _ => exact absurd ⟨hlocal, hr, rfl⟩ (h _)

/-- and as an expectation. -/
theorem Expectation.exists_error_readPlace (p : Place) {s : Scalar} (hnode : p.node = .scalar s)
    (h : ∀ r, ¬ s.Means r) : ∃ e, readPlace p = throw e := by
  rw [readPlace, Place.scalarValue_eq _ hnode]
  cases hlocal : isLocal s.tag with
  | true => exact ⟨_, rfl⟩
  | false =>
      cases hr : s.resolve with
      | error m => exact ⟨_, rfl⟩
      | ok r =>
          cases r with
          | wide n => exact ⟨_, rfl⟩
          | null => exact ⟨_, rfl⟩
          | _ => exact absurd ⟨hlocal, hr, rfl⟩ (h _)

/-! ## Its texts -/

/-- What a value comes to as a variable and as an expectation has the same text, unless it is an integer
that no signed number of 64 bits holds: the variable gets the text of the nearest float. -/
structure Texts (r : Resolved) (stored raw : String) : Prop where
  same : (∀ n, r = .integer n → n < twoTo 63) → stored = raw
  rounded : ∀ n, r = .integer n → (twoTo 63 : Int) ≤ n →
    raw = toString n ∧ (∃ m, Magnitude.ofNat? n.toNat = some m ∧ stored = plain.text ⟨false, m⟩) ∧
      (n % 100 ≠ 0 → stored ≠ raw)

/-- A scalar that stands for a value has a text as the value of a variable and one as an expectation. -/
theorem exists_texts {s : Scalar} {r : Resolved} (h : s.Means r) :
    ∃ v e, ScalarValue.ofResolved? r = some v ∧ Expectation.ofResolved? r = some e ∧
      Texts r v.toText e.raw := by
  obtain ⟨-, hresolve, hvalue⟩ := h
  cases r with
  | null => cases hvalue
  | wide n => cases hvalue
  | bool b => exact ⟨_, _, rfl, rfl, fun _ => rfl, fun n hn => by cases hn⟩
  | float x => exact ⟨_, _, rfl, rfl, fun _ => rfl, fun n hn => by cases hn⟩
  | text t => exact ⟨_, _, rfl, rfl, fun _ => rfl, fun n hn => by cases hn⟩
  | integer n =>
      by_cases hsmall : n < twoTo 63
      · refine ⟨.integer n, _, if_pos hsmall, rfl, fun _ => rfl, ?_⟩
        intro m hm hle
        cases hm
        omega
      · have hlarge : (twoTo 63 : Int) ≤ n := Int.not_lt.1 hsmall
        have hbound := Scalar.lt_of_resolve hresolve
        obtain ⟨k, rfl⟩ : ∃ k : Nat, n = k := ⟨n.toNat, by omega⟩
        obtain ⟨m, hm⟩ := Magnitude.exists_ofNat? k (by omega)
        refine ⟨.float (.finite ⟨false, m⟩), Expectation.parse (toString (k : Int)), ?_, rfl, ?_, ?_⟩
        · rw [ScalarValue.ofResolved?, if_neg hsmall, Int.toNat_natCast, hm]
          rfl
        · intro hall
          exact absurd (hall k rfl) hsmall
        · intro n hn _
          cases hn
          refine ⟨rfl, ⟨m, hm, rfl⟩, ?_⟩
          intro hmod
          exact plain_text_ne_toString k m (by omega) hm (by omega)

/-! ## A suite with a scalar -/

/-- A case with a scalar as the value of a field in each of its three maps. -/
def CaseDecl.withScalar (k : String) (s : Scalar) : Node :=
  .record
    [("id", .plain "a"), ("method", .plain "GET"), ("route", .plain "/"),
      ("params", .record [(k, .scalar s)]), ("route_params", .record [(k, .scalar s)]),
      ("expected", .record [(k, .scalar s)])]

/-- A suite with a scalar as the value of a variable and of fields of a case. -/
def Suite.withScalar (x k : String) (s : Scalar) : Node :=
  .record
    [("variables", .record [(x, .scalar s)]), ("tests", .sequence none [CaseDecl.withScalar k s])]

section

variable (p : Place) {k : String} {value : Node} (h : p.node = .record [(k, value)])

include h

theorem readEntries_singleton {α : Type} (expected : String) (read : Place → Decode α) :
    readEntries p expected read =
      read { p with node := value, path := .entry k :: p.path } >>= fun a => pure [(k, a)] := by
  simp only [readEntries, Place.entries_record p _ _ h, pure_bind, List.map_cons, List.map_nil,
    List.mapM_cons, List.mapM_nil, Place.text_plain, bind_assoc]

theorem Table.readPlace_singleton {α : Type} (read : Place → Decode α) {a : α}
    (hread : read { p with node := value, path := .entry k :: p.path } = pure a) :
    readPlace p read = pure (ofList [(k, a)]) := by
  rw [readPlace, readEntries_singleton p h, hread, pure_bind, pure_bind]

theorem FieldMap.readPlace_singleton {e : Expectation}
    (hread : Expectation.readPlace { p with node := value, path := .entry k :: p.path } = pure e) :
    readPlace p = pure (ofList [(k, e)]) := by
  rw [readPlace, readEntries_singleton p h, hread, pure_bind, pure_bind]

end

/-- The declaration of a case with an expectation of a field in each of its three maps. -/
def CaseDecl.uniform (k : String) (e : Expectation) : CaseDecl :=
  { CaseDecl.empty with
    id := "a"
    method := "GET"
    route := "/"
    params := .ofList [(k, e)]
    routeParams := .ofList [(k, e)]
    expected := .ofList [(k, e)] }

theorem CaseDecl.read_withScalar (p : Place) {k : String} {s : Scalar} {r : Resolved} {e : Expectation}
    (hnode : p.node = CaseDecl.withScalar k s) (h : s.Means r)
    (he : Expectation.ofResolved? r = some e) : read p = pure (.uniform k e) := by
  have htext : ∀ (document : Document) (text : String) (path : List Step) (g : String → Decode CaseDecl),
      readString ⟨document, .plain text, path⟩ >>= g = g text := by
    intro document text path g
    rw [readString, Place.text_plain, pure_bind]
  have hmap : ∀ (document : Document) (path : List Step) (g : FieldMap → Decode CaseDecl),
      FieldMap.readPlace ⟨document, .record [(k, .scalar s)], path⟩ >>= g = g (.ofList [(k, e)]) := by
    intro document path g
    rw [FieldMap.readPlace_singleton _ rfl (Expectation.readPlace_of_means _ rfl h he), pure_bind]
  rw [read, Place.record, Place.entries_record p _ _ hnode, pure_bind]
  simp only [List.map_cons, List.map_nil]
  -- Each of the six fields is known and comes once.
  rw [Place.assignAll_cons p _ (by decide) (by decide) (htext ..),
    Place.assignAll_cons p _ (by decide) (by decide) (htext ..),
    Place.assignAll_cons p _ (by decide) (by decide) (htext ..),
    Place.assignAll_cons p _ (by decide) (by decide) (hmap ..),
    Place.assignAll_cons p _ (by decide) (by decide) (hmap ..),
    Place.assignAll_cons p _ (by decide) (by decide) (hmap ..)]
  rfl

theorem Suite.readPlace_withScalar (p : Place) {x k : String} {s : Scalar} {r : Resolved}
    {v : ScalarValue} {e : Expectation} (hnode : p.node = Suite.withScalar x k s) (h : s.Means r)
    (hv : ScalarValue.ofResolved? r = some v) (he : Expectation.ofResolved? r = some e) :
    readPlace p = pure { Suite.empty with assigned := .ofList [(x, v)], cases := [.uniform k e] } := by
  have hvariables : ∀ (document : Document) (path : List Step) (g : Table ScalarValue → Decode Suite),
      Table.readPlace ⟨document, .record [(x, .scalar s)], path⟩
          (ScalarValue.read ⟨document, .record [(x, .scalar s)], path⟩) >>= g =
        g (.ofList [(x, v)]) := by
    intro document path g
    rw [Table.readPlace_singleton _ rfl _ (ScalarValue.read_of_means _ _ rfl h hv), pure_bind]
  have htests : ∀ (document : Document) (path : List Step) (g : List CaseDecl → Decode Suite),
      (Place.items ⟨document, .sequence none [CaseDecl.withScalar k s], path⟩ "a sequence" >>= fun places =>
        places.mapM CaseDecl.read >>= g) = g [.uniform k e] := by
    intro document path g
    have hcase : CaseDecl.read ⟨document, CaseDecl.withScalar k s, .item 0 :: path⟩ = _ :=
      CaseDecl.read_withScalar _ rfl h he
    rw [Place.items_sequence _ rfl, pure_bind, List.zipIdx_singleton, List.map_singleton, List.mapM_cons,
      List.mapM_nil, hcase, pure_bind, pure_bind, pure_bind]
  rw [readPlace, Place.record, Place.entries_record p _ _ hnode, pure_bind]
  simp only [List.map_cons, List.map_nil]
  rw [Place.assignAll_cons p _ (by decide) (by decide) (hvariables ..),
    Place.assignAll_cons p _ (by decide) (by decide) (htests ..)]
  rfl

/-! ## The law -/

/-- A scalar is accepted as the value of a variable and as an expectation if it stands for a value, and
is refused as both otherwise. A suite with the scalar as the value of a variable and of a field of each map
of a case is read; setting its variables gives the variable a text, which a reference to it resolves to,
and the expectations of the fields have a text. The two texts are the same unless the scalar stands for an
integer from `2 ^ 63` on: then the expectation has the text of the integer, and the variable has that of the
nearest float, which is another one if the integer does not end with two zeros. -/
theorem scalar_text_law (document : Document) (path : List Step) (x k : String) (s : Scalar) :
    ((∀ r, ¬ s.Means r) → ∀ outer q : Place, q.node = .scalar s →
      (∃ err, ScalarValue.read outer q = throw err) ∧ ∃ err, Expectation.readPlace q = throw err) ∧
    ∀ r, s.Means r → ∃ (suite : Suite) (stored : String) (e : Expectation),
      Suite.readPlace ⟨document, Suite.withScalar x k s, path⟩ = pure suite ∧
      (∀ store words, ∃ store', suite.seed store words = .ok (store', words) ∧
        store'.get? x = some stored ∧
        (x ≠ "" → (∀ c ∈ x.toList, isNameChar c = true) →
          (Expectation.referring x).resolve store' = stored)) ∧
      (∃ d, suite.cases = [d] ∧ ∀ fields ∈ [d.params, d.routeParams, d.expected],
        fields.get? k = some e) ∧
      Texts r stored e.raw := by
  constructor
  · intro hnone outer q hnode
    exact ⟨ScalarValue.exists_error_read outer q hnode hnone,
      Expectation.exists_error_readPlace q hnode hnone⟩
  · intro r hr
    obtain ⟨v, e, hv, he, htexts⟩ := exists_texts hr
    refine ⟨_, v.toText, e, Suite.readPlace_withScalar _ rfl hr hv he, ?_, ?_, htexts⟩
    · intro store words
      have hget : (store.insert x v.toText).get? x = some v.toText := by simp
      exact ⟨store.insert x v.toText, rfl, hget, fun hne hname =>
        Expectation.resolve_referring x v.toText _ hne hname hget⟩
    · refine ⟨.uniform k e, rfl, ?_⟩
      have hfields : (FieldMap.ofList [(k, e)]).get? k = some e := by simp [FieldMap.ofList]
      simp [CaseDecl.uniform, hfields]

/-- The largest integer of 64 bits is rounded as the value of a variable, and is not as an expectation. -/
theorem scalar_text_law_rounded :
    let s : Scalar := ⟨.plain, none, "18446744073709551615"⟩
    s.Means (.integer 18446744073709551615) ∧
    ∃ (suite : Suite) (stored : String) (e : Expectation),
      Suite.readPlace ⟨⟨none, []⟩, Suite.withScalar "X" "k" s, []⟩ = pure suite ∧
      (∃ store, suite.seed .empty ⟨[], 0⟩ = .ok (store, ⟨[], 0⟩) ∧
        (Expectation.referring "X").resolve store = stored) ∧
      e.raw = "18446744073709551615" ∧ stored ≠ e.raw := by
  intro s
  have hmeans : s.Means (.integer 18446744073709551615) := ⟨rfl, by decide +kernel, rfl⟩
  obtain ⟨-, hlaw⟩ := scalar_text_law ⟨none, []⟩ [] "X" "k" s
  obtain ⟨suite, stored, e, hread, hseed, -, htexts⟩ := hlaw _ hmeans
  obtain ⟨store, hstore, -, hresolve⟩ := hseed .empty ⟨[], 0⟩
  obtain ⟨hraw, -, hne⟩ := htexts.rounded _ rfl (by decide)
  have hname : "X".toList.all isNameChar = true := by decide
  exact ⟨hmeans, suite, stored, e, hread,
    ⟨store, hstore, hresolve (by decide) (List.all_eq_true.1 hname)⟩, hraw, hne (by decide)⟩

/-- A suite file in which the value of a variable and an expectation are written alike, and have different
texts. -/
theorem scalar_texts_differ :
    let file := "variables: {X: 18446744073709551615}\n" ++
      "tests: [{id: a, method: GET, route: /a, expected: {k: 18446744073709551615}}]\n"
    let stored : Option String := do
      let suite ← (Suite.parse file).toOption
      let (store, _) ← (suite.seed .empty ⟨[], 0⟩).toOption
      store.get? "X"
    let raw : Option String := do
      let suite ← (Suite.parse file).toOption
      let d ← suite.cases.head?
      (d.expected.get? "k").map Expectation.raw
    stored = some "18446744073709552000" ∧ raw = some "18446744073709551615" := by
  decide +kernel

end Probe
