import Mathlib.Data.List.Forall2
import Probe.Proofs.Except
import Probe.Yaml.Decode

/-!
# Reading places

What is read at a place where a scalar, a sequence or a mapping is written out, with no alias to follow; what is
read where aliases may be followed, of which a reading is paid as many as it may need; and what a record must have
been for its reading to have come to an end. Main statements:

* `scalarValue_eq`: a scalar where only a scalar may stand.
* `checkAny_scalar`: a scalar where anything may stand.
* `entries_mapping`, `items_sequence`: the parts of a mapping and of a sequence.
* `assignAll_cons`: one field of a record after the other.
* `ReadsWithin.bind`, `ReadsWithin.mapM`: what readings one after the other may need.
* `readsWithin_entries`, `exists_hasEntries`: what is read of a mapping, and what was one.
* `of_run_record`: what each field keeps, the record keeps.
-/

namespace Probe.Yaml

/-- A plain scalar without a tag. -/
def Node.plain (text : String) : Node :=
  .scalar ⟨.plain, none, text⟩

/-- A mapping from plain names. -/
def Node.record (fields : List (String × Node)) : Node :=
  .mapping none (fields.map fun f => (.plain f.1, f.2))

namespace Document

/-- The node itself, or the one where the alias leads. -/
def resolve (d : Document) : Node → Node
  | .alias number => (d.target? number).getD (.alias number)
  | node => node

/-- The names of the fields that a node has if it is a mapping. -/
def fieldNames (d : Document) (node : Node) : List String :=
  match d.resolve node with
  | .mapping _ entries => entries.filterMap fun (key, _) =>
      match d.resolve key with
      | .scalar s => some s.text
      | _ => none
  | _ => []

/-- The entries that a node has: those of a mapping, or none where nothing at all is written. -/
inductive HasEntries (d : Document) (node : Node) : List (Node × Node) → Prop where
  | mapping {tag : Option Tag} {entries : List (Node × Node)} (h : d.resolve node = .mapping tag entries) :
      HasEntries d node entries
  | nothing {s : Scalar} (h : d.resolve node = .scalar s) (hs : Place.isNothing s = true) : HasEntries d node []

theorem mem_fieldNames {d : Document} {node key value : Node} {tag : Option Tag} {entries : List (Node × Node)}
    {s : Scalar} {name : String} (hnode : d.resolve node = .mapping tag entries) (hkey : (key, value) ∈ entries)
    (hscalar : d.resolve key = .scalar s) (hname : s.text = name) : name ∈ d.fieldNames node := by
  rw [fieldNames, hnode]
  refine List.mem_filterMap.2 ⟨_, hkey, ?_⟩
  simp only [hscalar, hname]

end Document

namespace Place

variable {p : Place}

theorem follow_scalar {s : Scalar} (h : p.node = .scalar s) : p.follow = pure p := by
  simp [follow, h]

theorem follow_sequence {tag : Option Tag} {items : List Node} (h : p.node = .sequence tag items) :
    p.follow = pure p := by
  simp [follow, h]

theorem follow_mapping {tag : Option Tag} {entries : List (Node × Node)}
    (h : p.node = .mapping tag entries) : p.follow = pure p := by
  simp [follow, h]

/-- The parts of a mapping; a value is told by the name of its key. -/
theorem entries_mapping {tag : Option Tag} {entries : List (Node × Node)} (expected : String)
    (h : p.node = .mapping tag entries) :
    p.entries expected =
      pure (entries.map fun (k, v) =>
        ({ p with node := k }, { p with node := v, path := stepOf k :: p.path })) := by
  simp [Place.entries, follow_mapping h, h]

theorem items_sequence {tag : Option Tag} {items : List Node} (expected : String)
    (h : p.node = .sequence tag items) :
    p.items expected =
      pure (items.zipIdx.map fun (n, i) => { p with node := n, path := .item i :: p.path }) := by
  simp [Place.items, follow_sequence h, h]

/-- Where only a scalar may stand, it is read unless its tag is a local one or does not fit. -/
theorem scalarValue_eq {s : Scalar} (expected : String) (h : p.node = .scalar s) :
    p.scalarValue expected =
      if isLocal s.tag then p.refuse (.mismatch (.kind .enum expected))
      else
        match s.resolve with
        | .ok r => pure r
        | .error m => p.refuse (.mismatch m) := by
  rw [scalarValue, follow_scalar h, pure_bind]
  obtain ⟨document, node, path⟩ := p
  obtain rfl : node = .scalar s := h
  rfl

/-- Where anything may stand, so may a scalar. -/
theorem checkAny_scalar {s : Scalar} (depth : Nat) (h : p.node = .scalar s) :
    checkAny depth p = p.checkScalar s := by
  obtain ⟨document, node, path⟩ := p
  obtain rfl : node = .scalar s := h
  cases depth with
  | zero => rw [checkAny, follow_scalar rfl, pure_bind]
  | succ depth => rw [checkAny, follow_scalar rfl, pure_bind]

/-! ## Records -/

theorem entries_record (p : Place) (fields : List (String × Node)) (expected : String)
    (h : p.node = .record fields) :
    p.entries expected =
      pure (fields.map fun f =>
        ({ p with node := .plain f.1 }, { p with node := f.2, path := .entry f.1 :: p.path })) := by
  rw [entries_mapping expected h, List.map_map]
  rfl

theorem text_plain (document : Document) (text expected : String) (path : List Step) :
    Place.text ⟨document, .plain text, path⟩ expected = pure text :=
  text_scalar _ ⟨.plain, none, text⟩ expected rfl

/-- A field that is known and comes for the first time is read into the record. -/
theorem assignAll_cons {α : Type} (record : Place) {known : List String} {strict : Bool}
    {assign : String → Place → α → Decode α} {document : Document} {name : String} {steps : List Step}
    {value : Place} {rest : List (Place × Place)} {seen : List String} {a : α} (a' : α)
    (hknown : known.contains name = true) (hseen : seen.contains name = false)
    (hassign : assign name value a = pure a') :
    record.assignAll known strict assign ((⟨document, .plain name, steps⟩, value) :: rest) seen a =
      record.assignAll known strict assign rest (name :: seen) a' := by
  rw [assignAll, text_plain, pure_bind, if_pos hknown, hseen, hassign]
  rfl

/-! ## Readings that follow aliases -/

end Place

/-- A value is read wherever some aliases may be followed, and no more are. -/
def ReadsWithin {α : Type} (aliases : Nat) (x : Decode α) (a : α) : Prop :=
  ∀ n, aliases ≤ n → ∃ n', n ≤ n' + aliases ∧ x.run n = .ok (a, n')

namespace ReadsWithin

variable {α β : Type} {m n : Nat}

theorem pure (a : α) : ReadsWithin 0 (Pure.pure a) a :=
  fun n _ => ⟨n, Nat.le_refl n, rfl⟩

theorem bind {x : Decode α} {f : α → Decode β} {a : α} {b : β} (hx : ReadsWithin m x a)
    (hf : ReadsWithin n (f a) b) : ReadsWithin (m + n) (x >>= f) b := by
  intro left hleft
  obtain ⟨left', hleft', hx⟩ := hx left (by omega)
  obtain ⟨left'', hleft'', hf⟩ := hf left' (by omega)
  refine ⟨left'', by omega, ?_⟩
  rw [StateT.run_bind, hx]
  exact hf

theorem bind_of_eq {x : Decode α} {f : α → Decode β} {a : α} {b : β} (hx : ReadsWithin m x a)
    (hf : f a = Pure.pure b) : ReadsWithin m (x >>= f) b := by
  refine bind (n := 0) hx ?_
  rw [hf]
  exact pure b

theorem mapM {f : α → Decode β} {xs : List α} {ys : List β}
    (h : List.Forall₂ (fun x y => ReadsWithin n (f x) y) xs ys) : ReadsWithin (xs.length * n) (xs.mapM f) ys := by
  induction h with
  | nil => exact Nat.zero_mul n ▸ pure []
  | @cons x y xs ys hxy _ ih =>
      rw [List.mapM_cons, List.length_cons, Nat.succ_mul, Nat.add_comm]
      exact hxy.bind (ih.bind_of_eq rfl)

end ReadsWithin

namespace Place

variable {p : Place}

/-- The places of a key and of its value. -/
def entry (p : Place) (e : Node × Node) : Place × Place :=
  ({ p with node := e.1 }, { p with node := e.2, path := stepOf e.1 :: p.path })

theorem readsWithin_follow (p : Place) : ReadsWithin 1 p.follow { p with node := p.document.resolve p.node } := by
  intro n hn
  obtain ⟨left, rfl⟩ := Nat.exists_eq_add_of_le' hn
  obtain ⟨document, node, path⟩ := p
  -- A node that is no alias costs nothing.
  rcases node with s | ⟨tag, items⟩ | ⟨tag, entries⟩ | number
  · exact ⟨left + 1, Nat.le_succ _, rfl⟩
  · exact ⟨left + 1, Nat.le_succ _, rfl⟩
  · exact ⟨left + 1, Nat.le_succ _, rfl⟩
  · exact ⟨left, Nat.le_refl _, rfl⟩

theorem readsWithin_text {s : Scalar} (expected : String) (h : p.document.resolve p.node = .scalar s) :
    ReadsWithin 1 (p.text expected) s.text := by
  refine (readsWithin_follow p).bind_of_eq ?_
  simp only [h]

theorem readsWithin_scalarValue {s : Scalar} {r : Resolved} (expected : String)
    (h : p.document.resolve p.node = .scalar s) (hlocal : isLocal s.tag = false) (hr : s.resolve = .ok r) :
    ReadsWithin 1 (p.scalarValue expected) r := by
  refine (readsWithin_follow p).bind_of_eq ?_
  simp only [h, hlocal, hr, Bool.false_eq_true, if_false]

theorem readsWithin_entries {entries : List (Node × Node)} (expected : String)
    (h : p.document.HasEntries p.node entries) : ReadsWithin 1 (p.entries expected) (entries.map p.entry) := by
  refine (readsWithin_follow p).bind_of_eq ?_
  cases h with
  | mapping h =>
      simp only [h]
      rfl
  | nothing h hs => simp only [h, hs, if_true, List.map_nil]

/-! ## What has been read -/

theorem exists_of_run_bind {α β : Type} {x : Decode α} {f : α → Decode β} {n n' : Nat} {b : β}
    (h : (x >>= f).run n = .ok (b, n')) : ∃ a m, x.run n = .ok (a, m) ∧ (f a).run m = .ok (b, n') := by
  rw [StateT.run_bind] at h
  obtain ⟨⟨a, m⟩, hx, hf⟩ := exists_of_bind_eq_ok h
  exact ⟨a, m, hx, hf⟩

/-- A result that a value is put into has what it has for every value. -/
theorem of_run_update {α β : Type} (keeps : β → Prop) {x : Decode α} {update : α → β} {n n' : Nat} {b : β}
    (h : (x >>= fun a => pure (update a)).run n = .ok (b, n')) (hupdate : ∀ a, keeps (update a)) : keeps b := by
  obtain ⟨a, m, -, h⟩ := exists_of_run_bind h
  cases h
  exact hupdate a

theorem run_mismatch_ne_ok {α : Type} (p : Place) (expected : String) (n : Nat) (r : α × Nat) :
    (p.mismatch expected : Decode α).run n ≠ .ok r := by
  unfold mismatch
  split
  · split <;> nofun
  · nofun
  · nofun
  · nofun

/-- Following an alias leads from one node of a document to another one. -/
theorem node_of_follow {q : Place} {n n' : Nat} (h : p.follow.run n = .ok (q, n')) :
    q = { p with node := p.document.resolve p.node } := by
  obtain ⟨document, node, path⟩ := p
  rcases node with s | ⟨tag, items⟩ | ⟨tag, entries⟩ | number
  · cases h
    rfl
  · cases h
    rfl
  · cases h
    rfl
  · cases n with
    | zero => cases h
    | succ left =>
        cases h
        rfl

/-- A text is read off a scalar. -/
theorem eq_scalar_of_text {expected name : String} {n n' : Nat}
    (h : (p.text expected).run n = .ok (name, n')) :
    ∃ s, p.document.resolve p.node = .scalar s ∧ s.text = name := by
  obtain ⟨q, m, hq, h⟩ := exists_of_run_bind h
  obtain rfl := node_of_follow hq
  split at h
  · next s hs =>
      cases h
      exact ⟨s, hs, rfl⟩
  · exact absurd h (run_mismatch_ne_ok _ _ _ _)

/-- What a scalar stands for is read off that scalar. -/
theorem eq_scalar_of_scalarValue {expected : String} {r : Resolved} {n n' : Nat}
    (h : (p.scalarValue expected).run n = .ok (r, n')) :
    ∃ s, p.document.resolve p.node = .scalar s ∧ isLocal s.tag = false ∧ s.resolve = .ok r := by
  obtain ⟨q, m, hq, h⟩ := exists_of_run_bind h
  obtain rfl := node_of_follow hq
  dsimp only at h
  split at h
  · next s hs =>
      split at h
      · cases h
      · next hlocal =>
          split at h
          · next hr =>
              cases h
              exact ⟨s, hs, Bool.eq_false_iff.2 hlocal, hr⟩
          · cases h
  · cases h
  · cases h
  · cases h

/-- Entries are read off a mapping, unless there is nothing at all. -/
theorem exists_hasEntries {expected : String} {n n' : Nat} {fields : List (Place × Place)}
    (h : (p.entries expected).run n = .ok (fields, n')) :
    ∃ entries, p.document.HasEntries p.node entries ∧ fields = entries.map p.entry := by
  obtain ⟨q, m, hq, h⟩ := exists_of_run_bind h
  obtain rfl := node_of_follow hq
  split at h
  · next entries hentries =>
      cases h
      exact ⟨entries, .mapping hentries, rfl⟩
  · next s hs =>
      split at h
      · next hnothing =>
          cases h
          exact ⟨[], .nothing hs hnothing, rfl⟩
      · exact absurd h (run_mismatch_ne_ok _ _ _ _)
  · exact absurd h (run_mismatch_ne_ok _ _ _ _)

/-- Going through a list, each element has been read. -/
theorem forall₂_of_run_mapM {α β : Type} {f : α → Decode β} {xs : List α} {ys : List β} {n n' : Nat}
    (h : (xs.mapM f).run n = .ok (ys, n')) : List.Forall₂ (fun x y => ∃ m m', (f x).run m = .ok (y, m')) xs ys := by
  induction xs generalizing ys n with
  | nil =>
      cases h
      exact .nil
  | cons x rest ih =>
      rw [List.mapM_cons] at h
      obtain ⟨y, m, hy, h⟩ := exists_of_run_bind h
      obtain ⟨more, m', hmore, h⟩ := exists_of_run_bind h
      cases h
      exact .cons ⟨n, m, hy⟩ (ih hmore)

/-- What the reading of each field keeps of a record, the reading of the fields keeps. -/
theorem of_run_assignAll {α : Type} {record : Place} {known : List String} {strict : Bool}
    {assign : String → Place → α → Decode α} {keeps : α → Prop} {fields : List (Place × Place)}
    {seen seen' : List String} {a a' : α} {n n' : Nat}
    (h : (record.assignAll known strict assign fields seen a).run n = .ok ((a', seen'), n'))
    (hassign : ∀ key value, (key, value) ∈ fields → ∀ name k k',
      (key.text "field identifier").run k = .ok (name, k') → ∀ b b' m m',
        (assign name value b).run m = .ok (b', m') → keeps b → keeps b')
    (ha : keeps a) : keeps a' := by
  induction fields generalizing seen a n with
  | nil =>
      cases h
      exact ha
  | cons field rest ih =>
      obtain ⟨key, value⟩ := field
      have hrest := fun k v hmem => hassign k v (List.mem_cons_of_mem _ hmem)
      obtain ⟨name, m, hname, h⟩ := exists_of_run_bind h
      -- Known fields are read, the first time they come; others are passed over.
      split at h
      · split at h
        · cases h
        · obtain ⟨b, m', hb, h⟩ := exists_of_run_bind h
          exact ih h hrest (hassign key value List.mem_cons_self name n m hname a b m m' hb ha)
      · split at h
        · cases h
        · exact ih h hrest ha

/-- What the reading of each field that is mentioned keeps, the reading of a record keeps. -/
theorem of_run_record {α : Type} (keeps : α → Prop) {kind : String} {known required : List String}
    {strict : Bool} {assign : String → Place → α → Decode α} {start a : α} {n n' : Nat}
    (h : (p.record kind known required strict assign start).run n = .ok (a, n'))
    (hassign : ∀ name ∈ p.document.fieldNames p.node, ∀ value b b' m m',
      (assign name value b).run m = .ok (b', m') → keeps b → keeps b')
    (hstart : keeps start) : keeps a := by
  obtain ⟨fields, m, hfields, h⟩ := exists_of_run_bind h
  obtain ⟨⟨b, seen⟩, m', hread, h⟩ := exists_of_run_bind h
  have hb : keeps b := by
    refine of_run_assignAll hread ?_ hstart
    intro key value hmem name k k' hname
    obtain ⟨entries, hentries, rfl⟩ := exists_hasEntries hfields
    obtain ⟨⟨k, v⟩, hkey, heq⟩ := List.mem_map.1 hmem
    cases heq
    obtain ⟨s, hscalar, hs⟩ := eq_scalar_of_text hname
    cases hentries with
    | mapping hmapping => exact hassign name (Document.mem_fieldNames hmapping hkey hscalar hs) _
    | nothing => cases hkey
  dsimp only at h
  split at h
  · cases h
  · cases h
    exact hb

end Place

/-- What is read of a text is read at the root of its document. -/
theorem exists_of_read {α : Type} {decode : Place → Decode α} {text : String} {a : α}
    (h : read decode text = .ok a) : ∃ d n', Document.ofText? text = some d ∧
      (decode d.place).run (100 * d.size) = .ok (a, n') := by
  unfold read at h
  split at h
  · next d hd =>
      change ((decode d.place).run (100 * d.size)).map Prod.fst = .ok a at h
      cases hrun : (decode d.place).run (100 * d.size) with
      | error e =>
          rw [hrun] at h
          cases h
      | ok r =>
          rw [hrun] at h
          cases h
          exact ⟨d, r.2, hd, hrun⟩
  · cases h

end Probe.Yaml
