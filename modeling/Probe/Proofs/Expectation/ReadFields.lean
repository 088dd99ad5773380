import Probe.Proofs.Expectation.Fields
import Probe.Proofs.Expectation.OwnText
import Probe.Proofs.Json.RoundTrip
import Probe.Proofs.Suite.Scalars

/-!
# Fields that are read

A field map is read from the members of a JSON object or from the entries of a YAML mapping. Neither reader looks
for repeated names: whatever is written there is inserted, one field after the other. Main statements:

* `readMembers_readExpectation_iff`, `FieldMap.read_eq_ok_iff`: the members of an object.
* `FieldMap.exists_of_run_readPlace`, `FieldMap.readsWithin_readPlace`: the entries of a mapping.
* `FieldMap.insertion_law`: fields that are inserted, collected or read.
-/

namespace Probe

open Probe.Text
open Probe.Json
open Probe.Yaml

/-! ## Objects -/

namespace Json

/-- A text is an object with these members, also those whose keys are repeated. -/
def HoldsMembers (t : Encoded) (members : List (String × Value)) : Prop :=
  ∃ inner rest, skipSpace t = .char '\x7b' :: inner ∧
    readMembers (readValue (depthLimit - 1)) (inner.length + 1) true inner = .ok (members, rest) ∧
    skipSpace rest = []

/-- The object that is read has of each key the member that comes last. -/
theorem HoldsMembers.read_eq {t : Encoded} {members : List (String × Value)} (h : HoldsMembers t members) :
    Value.read t = .ok (.object (membersOf members)) := by
  obtain ⟨inner, rest, hopen, hmembers, hrest⟩ := h
  refine readText_eq_ok_iff.2 ⟨rest, ?_, hrest⟩
  unfold readValue depthLimit
  simp only [hopen]
  rw [depthLimit] at hmembers
  simp only [hmembers]
  rfl

/-- What is printed of members is an object with these members. -/
theorem holdsMembers_compact {members : List (String × Value)}
    (h : ∀ m ∈ members, m.2.ExactWithin (depthLimit - 1)) :
    HoldsMembers (.ofString (Value.object members).compact) members := by
  have hparts := forall₂_members .compact fun m hm => readsAs_compactChars (h m hm)
  obtain ⟨inner, htext, hread⟩ := readMembers_container .compact hparts []
  refine ⟨inner, [], ?_, hread, rfl⟩
  rw [container_compact, ← compactMembers_eq, List.append_nil] at htext
  rw [Value.compact, Encoded.ofString, String.toList_ofList]
  exact congrArg skipSpace htext

/-- Only an opening brace is read as that of an object. -/
theorem skipSpace_of_readHead {t inner : Encoded} {members : List (String × Value)}
    (h : readHead t = .ok (.object members, inner)) : skipSpace t = .char '\x7b' :: inner := by
  unfold readHead at h
  split at h
  · cases h
  · next heq =>
      cases h
      exact heq
  · exact absurd rfl ((not_container_of_readScalar h).2 members)

end Json

/-- A member is written for a field. -/
def StandsFor : String × Value → String × Expectation → Prop :=
  SameKey fun v e => Expectation.ofScalar? v = some e

theorem rightUnique_standsFor : Relator.RightUnique StandsFor := by
  rintro ⟨key, v⟩ ⟨name, e⟩ ⟨name', e'⟩ ⟨rfl, he⟩ ⟨rfl, he'⟩
  rw [he] at he'
  cases he'
  rfl

/-- Fields are read where members are read that are written for them. -/
theorem readMembers_readExpectation_iff {budget : Nat} {first : Bool} {t rest : Encoded}
    {inserts : List (String × Expectation)} (depth : Nat) :
    readMembers readExpectation budget first t = .ok (inserts, rest) ↔
      ∃ members, readMembers (readValue depth) budget first t = .ok (members, rest) ∧
        List.Forall₂ StandsFor members inserts := by
  constructor
  · intro h
    obtain ⟨members, hread, hsame⟩ := exists_forall₂_of_readMembers
      (P := fun _ => True) (R := fun e v => Expectation.ofScalar? v = some e)
      (fun t e rest he _ => (Expectation.readExpectation_eq_ok_iff depth).1 he) h (fun _ _ => trivial)
    refine ⟨members, hread, .flip (hsame.imp ?_)⟩
    exact fun f m hfm => ⟨hfm.1.symm, hfm.2⟩
  · rintro ⟨members, hread, hstand⟩
    have hscalars : ∀ m ∈ members, ∃ e, Expectation.ofScalar? m.2 = some e := by
      clear hread
      induction hstand with
      | nil => exact nofun
      | cons hm _ ih => exact List.forall_mem_cons.2 ⟨⟨_, hm.2⟩, ih⟩
    obtain ⟨inserts', hread', hsame⟩ := exists_forall₂_of_readMembers
      (P := fun v => ∃ e, Expectation.ofScalar? v = some e) (R := fun v e => Expectation.ofScalar? v = some e)
      (fun t v rest hv ⟨e, he⟩ => ⟨e, (Expectation.readExpectation_eq_ok_iff depth).2 ⟨v, hv, he⟩, he⟩) hread hscalars
    rwa [List.right_unique_forall₂' rightUnique_standsFor hstand hsame]

namespace FieldMap

/-- Fields are read of a text if it is an object whose members are written for fields, which are inserted one
after the other. -/
theorem read_eq_ok_iff {s : String} {fields : FieldMap} :
    read s = .ok fields ↔ ∃ members inserts, HoldsMembers (.ofString s) members ∧
      List.Forall₂ StandsFor members inserts ∧ fields = ofList inserts := by
  rw [read, readText_eq_ok_iff]
  constructor
  · rintro ⟨rest, h, hrest⟩
    obtain ⟨⟨v, inner⟩, hhead, h⟩ := exists_of_bind_eq_ok h
    dsimp only at h
    split at h
    · next heq =>
        cases heq
        obtain ⟨⟨inserts, rest'⟩, hread, h⟩ := exists_of_bind_eq_ok h
        cases h
        obtain ⟨members, hmembers, hstand⟩ := (readMembers_readExpectation_iff _).1 hread
        exact ⟨members, inserts, ⟨inner, rest', skipSpace_of_readHead hhead, hmembers, hrest⟩, hstand, rfl⟩
    · cases h
  · rintro ⟨members, inserts, ⟨inner, rest, hopen, hmembers, hrest⟩, hstand, rfl⟩
    refine ⟨rest, ?_, hrest⟩
    have hread := (readMembers_readExpectation_iff _).2 ⟨members, hmembers, hstand⟩
    have hhead : readHead (.ofString s) = .ok (.object [], inner) := by
      simp only [readHead, hopen]
    simp only [readFields, hhead, bind, Except.bind, hread]

end FieldMap

/-! ## Mappings -/

/-- An entry is written for a field: its key is a text, and its value a scalar. -/
def Yaml.Document.Writes (d : Document) (entry : Node × Node) (f : String × Expectation) : Prop :=
  (∃ s, d.resolve entry.1 = .scalar s ∧ s.text = f.1) ∧
    ∃ s r, d.resolve entry.2 = .scalar s ∧ s.Means r ∧ Expectation.ofResolved? r = some f.2

namespace Expectation

variable {p : Place} {e : Expectation}

theorem exists_of_run_readPlace {n n' : Nat} (h : (readPlace p).run n = .ok (e, n')) :
    ∃ s r, p.document.resolve p.node = .scalar s ∧ s.Means r ∧ ofResolved? r = some e := by
  obtain ⟨r, m, hr, h⟩ := Place.exists_of_run_bind h
  obtain ⟨s, hs, hlocal, hresolve⟩ := Place.eq_scalar_of_scalarValue hr
  split at h
  · next he =>
      cases h
      refine ⟨s, r, hs, ⟨hlocal, hresolve, ?_⟩, he⟩
      cases r <;> first | rfl | cases he
  · cases h

theorem readsWithin_readPlace {s : Scalar} {r : Resolved} (hs : p.document.resolve p.node = .scalar s)
    (h : s.Means r) (he : ofResolved? r = some e) : ReadsWithin 1 (readPlace p) e := by
  refine (Place.readsWithin_scalarValue _ hs h.notLocal h.resolve).bind_of_eq ?_
  simp only [he]

end Expectation

namespace FieldMap

variable {p : Place}

/-- Fields that are read of a mapping are written by its entries. -/
theorem exists_of_run_readPlace {fields : FieldMap} {n n' : Nat} (h : (readPlace p).run n = .ok (fields, n')) :
    ∃ entries inserts, p.document.HasEntries p.node entries ∧
      List.Forall₂ p.document.Writes entries inserts ∧ fields = ofList inserts := by
  obtain ⟨inserts, m, hread, h⟩ := Place.exists_of_run_bind h
  cases h
  obtain ⟨places, m', hplaces, hread⟩ := Place.exists_of_run_bind hread
  obtain ⟨entries, hentries, rfl⟩ := Place.exists_hasEntries hplaces
  refine ⟨entries, inserts, hentries, ?_, rfl⟩
  refine (List.forall₂_map_left_iff.1 (Place.forall₂_of_run_mapM hread)).imp ?_
  rintro ⟨k, v⟩ ⟨name, e⟩ ⟨m, m', h⟩
  obtain ⟨name', _, hname, h⟩ := Place.exists_of_run_bind h
  obtain ⟨e', _, he, h⟩ := Place.exists_of_run_bind h
  cases h
  exact ⟨Place.eq_scalar_of_text hname, Expectation.exists_of_run_readPlace he⟩

/-- Entries that write fields are read, if an alias may be followed at the mapping, and at each key and value. -/
theorem readsWithin_readPlace {entries : List (Node × Node)} {inserts : List (String × Expectation)}
    (hentries : p.document.HasEntries p.node entries) (h : List.Forall₂ p.document.Writes entries inserts) :
    ReadsWithin (1 + entries.length * 2) (readPlace p) (ofList inserts) := by
  have hread : ReadsWithin ((entries.map p.entry).length * 2)
      ((entries.map p.entry).mapM fun field => do
        let name ← field.1.text "a string"
        pure (name, ← Expectation.readPlace field.2)) inserts := by
    refine .mapM (List.forall₂_map_left_iff.2 (h.imp ?_))
    rintro ⟨k, v⟩ ⟨name, e⟩ ⟨⟨s, hs, rfl⟩, s', r, hs', hmeans, he⟩
    refine (Place.readsWithin_text _ hs).bind (n := 1) ?_
    exact (Expectation.readsWithin_readPlace hs' hmeans he).bind_of_eq rfl
  rw [List.length_map] at hread
  exact ((Place.readsWithin_entries _ hentries).bind hread).bind_of_eq rfl

/-! ## The law -/

/-- The members of an object that are truth values, integers and strings stand for their texts. -/
theorem forall₂_standsFor_text {members : List (String × Value)} (h : ∀ m ∈ members, m.2.Exact) :
    List.Forall₂ StandsFor members (members.map fun m => (m.1, .parse m.2.text)) := by
  rw [List.forall₂_map_right_iff, List.forall₂_same]
  exact fun m hm => ⟨rfl, Expectation.ofScalar?_of_exact (h m hm)⟩

/-- A field that is inserted keeps its place if its name is there already, and goes to the end if not. So whatever
has been inserted, one field after the other or as a list, no name stands twice, the names are in the order in
which they were first inserted, and each name has the expectation that was inserted last under it. Fields that are
read were inserted too: those of a text are the members of an object as they are written there, and those of a
document the entries of a mapping, which may be led to by aliases. Conversely, whatever members or entries are
written, with any keys repeated, they are read if their values are scalars that expectations may be written as. -/
theorem insertion_law :
    Inserted [] empty ∧
    (∀ inserts fields, Inserted inserts fields → ∀ name e,
      Inserted (inserts ++ [(name, e)]) (fields.insert name e) ∧
        (fields.insert name e).names = if name ∈ fields.names then fields.names else fields.names ++ [name]) ∧
    (∀ inserts, Inserted inserts (ofList inserts)) ∧
    (∀ s fields, read s = .ok fields → ∃ members inserts, HoldsMembers (.ofString s) members ∧
      List.Forall₂ StandsFor members inserts ∧ Inserted inserts fields) ∧
    (∀ s members inserts, HoldsMembers (.ofString s) members → List.Forall₂ StandsFor members inserts →
      ∃ fields, read s = .ok fields ∧ Inserted inserts fields) ∧
    (∀ members : List (String × Value), (∀ m ∈ members, m.2.Exact) →
      ∃ fields, read (Value.object members).compact = .ok fields ∧
        Inserted (members.map fun m => (m.1, .parse m.2.text)) fields) ∧
    (∀ (p : Place) n n' fields, (readPlace p).run n = .ok (fields, n') → ∃ entries inserts,
      p.document.HasEntries p.node entries ∧ List.Forall₂ p.document.Writes entries inserts ∧
        Inserted inserts fields) ∧
    (∀ (p : Place) entries inserts, p.document.HasEntries p.node entries →
      List.Forall₂ p.document.Writes entries inserts → ∀ n, 2 * entries.length < n →
        ∃ fields n', (readPlace p).run n = .ok (fields, n') ∧ Inserted inserts fields) := by
  refine ⟨inserted_empty, fun inserts fields h name e => ⟨h.insert name e, names_insert fields name e⟩,
    inserted_ofList, fun s fields h => ?_, fun s members inserts hmembers hstand => ?_, fun members h => ?_,
    fun p n n' fields h => ?_, fun p entries inserts hentries hwrites n hn => ?_⟩
  · obtain ⟨members, inserts, hmembers, hstand, rfl⟩ := read_eq_ok_iff.1 h
    exact ⟨members, inserts, hmembers, hstand, inserted_ofList inserts⟩
  · exact ⟨_, read_eq_ok_iff.2 ⟨members, inserts, hmembers, hstand, rfl⟩, inserted_ofList inserts⟩
  · have hmembers := holdsMembers_compact fun m hm => .scalar (h m hm)
    exact ⟨_, read_eq_ok_iff.2 ⟨members, _, hmembers, forall₂_standsFor_text h, rfl⟩, inserted_ofList _⟩
  · obtain ⟨entries, inserts, hentries, hwrites, rfl⟩ := exists_of_run_readPlace h
    exact ⟨entries, inserts, hentries, hwrites, inserted_ofList inserts⟩
  · obtain ⟨n', -, hread⟩ := readsWithin_readPlace hentries hwrites n (by omega)
    exact ⟨_, n', hread, inserted_ofList inserts⟩

/-- A name that is repeated in an object stands where it came first. -/
example : (read "\x7b\"b\": \"1\", \"a\": 2, \"b\": \"3\"\x7d").toOption.map entries =
    some [("b", .parse "3"), ("a", .parse "2")] := by
  decide +kernel

end FieldMap

end Probe
