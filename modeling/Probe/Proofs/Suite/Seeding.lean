import Probe.Proofs.Except
import Probe.Proofs.Store.Writes
import Probe.Proofs.Suite.Faults

/-!
# Setting the variables of a suite

All kinds of generated values are looked at before anything is written, so that a suite sets all its variables or
none. Literal values are written first and generated ones over them, each with the words that the ones before it
have left. Main statements:

* `Generator.ofName?_eq_some_iff`: how a generator may be written.
* `generators_eq_error_iff`: the entry that a suite is refused for.
* `run_seedInPlace`: writing in place comes to the same as writing at once, and leaves no half of it behind.
* `seeding_law`: what is set, with which words, and what is left alone.
-/

namespace Probe

/-! ## Names of generators -/

theorem Text.map_toLower_eq_iff {s t : List Char} (ht : ∀ d ∈ t, 97 ≤ d.toNat ∧ d.toNat ≤ 122) :
    s.map Char.toLower = t ↔ List.Forall₂ (fun c d => c = d ∨ c = d.toUpper) s t := by
  induction s generalizing t with
  | nil => rw [List.map_nil, List.forall₂_nil_left_iff, eq_comm]
  | cons c s ih =>
      cases t with
      | nil => simp
      | cons d t =>
          obtain ⟨hd, ht⟩ := List.forall_mem_cons.1 ht
          rw [List.map_cons, List.cons.injEq, List.forall₂_cons, toLower_eq_iff hd, ih ht]

namespace Generator

/-- The name of a generator. -/
def name : Generator → String
  | email => "email"
  | number => "number"
  | string => "string"

/-- A text is the name of a generator, with any of its letters as a capital. -/
def Names (kind : String) (g : Generator) : Prop :=
  List.Forall₂ (fun c d => c = d ∨ c = d.toUpper) kind.toList g.name.toList

theorem lowerCase_eq_name_iff {kind : String} {g : Generator} : Text.lowerCase kind = g.name ↔ Names kind g := by
  have hsmall : g.name.toList.all (fun d => 97 ≤ d.toNat ∧ d.toNat ≤ 122) = true := by
    cases g <;> decide
  have hletters : ∀ d ∈ g.name.toList, 97 ≤ d.toNat ∧ d.toNat ≤ 122 := by simpa using hsmall
  rw [Text.lowerCase, ← String.toList_inj, String.toList_ofList, Text.map_toLower_eq_iff hletters, Names]

theorem ofName?_eq_some_iff {kind : String} {g : Generator} : ofName? kind = some g ↔ Names kind g := by
  rw [← lowerCase_eq_name_iff]
  unfold ofName?
  split
  · next h => rw [h]; cases g <;> decide
  · next h => rw [h]; cases g <;> decide
  · next h => rw [h]; cases g <;> decide
  · next hemail hnumber hstring =>
      refine iff_of_false nofun fun h => ?_
      cases g with
      | email => exact hemail h
      | number => exact hnumber h
      | string => exact hstring h

end Generator

namespace Suite

/-! ## Kinds that are not known -/

/-- No generator has this name. -/
def UnknownKind (kind : String) : Prop :=
  ∀ g, ¬ Generator.Names kind g

/-- The first variable, in the order of the names, that is to get a generated value of no known kind. -/
structure FirstUnknown (suite : Suite) (name kind : String) : Prop where
  here : suite.generated.get? name = some kind
  unknown : UnknownKind kind
  least : ∀ other kind', other < name → suite.generated.get? other = some kind' → ¬ UnknownKind kind'

theorem ofName?_eq_none_iff {kind : String} : Generator.ofName? kind = none ↔ UnknownKind kind := by
  simp only [UnknownKind, ← Generator.ofName?_eq_some_iff, Option.eq_none_iff_forall_ne_some, ne_eq]

/-- A suite is refused for the first variable, in the order of the names, of a kind that is not known. -/
theorem generators_eq_error_iff (suite : Suite) (e : SuiteError) :
    suite.generators = .error e ↔
      ∃ name kind, suite.FirstUnknown name kind ∧ e = .unknownGenerator name kind := by
  unfold generators
  rw [mapM_eq_error_iff]
  constructor
  · rintro ⟨before, ⟨name, kind⟩, after, hentries, hbefore, he⟩
    have hmem : (name, kind) ∈ suite.generated.entries := by rw [hentries]; simp
    have hascending := suite.generated.ascending
    rw [hentries] at hascending
    cases hkind : Generator.ofName? kind with
    | some g => simp [hkind] at he
    | none =>
        refine ⟨name, kind, ⟨Table.get?_eq_some_iff.2 hmem, ofName?_eq_none_iff.1 hkind, ?_⟩, ?_⟩
        · intro other kind' hlt hother hunknown
          -- A smaller name is in front of the entry, and all entries there are known.
          have hother := Table.get?_eq_some_iff.1 hother
          rw [hentries, List.mem_append, List.mem_cons] at hother
          rcases hother with hother | hother | hother
          · obtain ⟨y, hy⟩ := hbefore _ hother
            simp [ofName?_eq_none_iff.2 hunknown] at hy
          · cases hother
            exact String.lt_irrefl _ hlt
          · exact String.lt_irrefl _ (String.lt_trans hlt (hascending.split.2 _ hother))
        · simpa [hkind] using he.symm
  · rintro ⟨name, kind, ⟨here, unknown, least⟩, rfl⟩
    obtain ⟨before, after, hentries⟩ := List.append_of_mem (Table.get?_eq_some_iff.1 here)
    have hascending := suite.generated.ascending
    rw [hentries] at hascending
    refine ⟨before, (name, kind), after, hentries, ?_, by simp [ofName?_eq_none_iff.2 unknown]⟩
    rintro ⟨other, kind'⟩ hother
    have hget : suite.generated.get? other = some kind' :=
      Table.get?_eq_some_iff.2 (hentries ▸ List.mem_append_left _ hother)
    cases hkind : Generator.ofName? kind' with
    | some g => exact ⟨(other, g), by simp [hkind]⟩
    | none => exact absurd (ofName?_eq_none_iff.1 hkind) (least other kind' (hascending.split.1 _ hother) hget)

theorem known_of_generators {suite : Suite} {generators : List (String × Generator)}
    (h : suite.generators = .ok generators) {name kind : String} (hget : suite.generated.get? name = some kind) :
    ¬ UnknownKind kind := by
  obtain ⟨g, hg⟩ := exists_of_mapM_eq_ok h _ (Table.get?_eq_some_iff.1 hget)
  intro hunknown
  simp [ofName?_eq_none_iff.2 hunknown] at hg

/-- Otherwise there is one generator for each of these variables, of the kind that is named. -/
theorem exists_generators {suite : Suite}
    (h : ∀ name kind, suite.generated.get? name = some kind → ¬ UnknownKind kind) :
    ∃ generators, suite.generators = .ok generators ∧
      List.Forall₂ (fun e g => g.1 = e.1 ∧ Generator.Names e.2 g.2) suite.generated.entries generators := by
  cases hg : suite.generators with
  | error e =>
      obtain ⟨name, kind, hfirst, -⟩ := (suite.generators_eq_error_iff e).1 hg
      exact absurd hfirst.unknown (h name kind hfirst.here)
  | ok generators =>
      refine ⟨generators, rfl, ((mapM_eq_ok_iff _ _ _).1 hg).imp ?_⟩
      rintro ⟨name, kind⟩ g he
      cases hkind : Generator.ofName? kind with
      | none => simp [hkind] at he
      | some g' =>
          simp only [hkind, Except.ok.injEq] at he
          subst he
          exact ⟨rfl, Generator.ofName?_eq_some_iff.1 hkind⟩

/-! ## Writing in place -/

/-- Generators that run one after the other. Each has the words that the ones before it have left, and what it
makes of them is written to its variable. -/
inductive Generated : List (String × String) → Words → Writes → Words → Prop where
  | nil (words : Words) : Generated [] words [] words
  | cons {name kind value : String} {g : Generator} {rest : List (String × String)} {words next left : Words}
      {values : Writes} (hkind : Generator.Names kind g) (hvalue : g.generate words = (value, next))
      (hrest : Generated rest next values left) :
      Generated ((name, kind) :: rest) words ((name, value) :: values) left

/-- Steps on the variables and the random words. What has been done when a step fails is there to stay. -/
abbrev InPlace := ExceptT SuiteError (StateM (Store × Words))

/-- Writes literal values one after the other. -/
def writeLiterals (entries : List (String × ScalarValue)) : InPlace Unit :=
  entries.forM fun (name, value) => modify fun (store, words) => (store.set name value.toText, words)

/-- Generates values and writes them one after the other. -/
def writeGenerated (generators : List (String × Generator)) : InPlace Unit :=
  generators.forM fun (name, g) => modify fun (store, words) =>
    let (value, words) := g.generate words
    (store.set name value, words)

/-- Sets the variables of a suite in place: the kinds are looked at, then the literal values are written, and then
the generated ones. -/
def seedInPlace (suite : Suite) : InPlace Unit := do
  let generators ← ExceptT.mk (pure suite.generators)
  writeLiterals suite.assigned.entries
  writeGenerated generators

theorem InPlace.run_bind_of_ok {α β : Type} {x : InPlace α} {f : α → InPlace β} {s s' : Store × Words} {a : α}
    (h : x.run s = (.ok a, s')) : (x >>= f).run s = (f a).run s' := by
  have hrun : (x >>= f).run s =
      match x.run s with
      | (.ok a, s') => (f a).run s'
      | (.error e, s') => (.error e, s') := by
    show (ExceptT.bind x f).run s = _
    simp only [ExceptT.bind, ExceptT.bindCont, ExceptT.run, ExceptT.mk, bind, StateT.bind]
    rcases x s with ⟨a | a, s'⟩ <;> rfl
  rw [hrun, h]

/-- Literal values that are written one after the other are written all at once. -/
theorem run_writeLiterals (entries : List (String × ScalarValue)) (store : Store) (words : Words) :
    (writeLiterals entries).run (store, words) =
      (.ok (), (store.insertAll (entries.map fun (name, value) => (name, value.toText)), words)) := by
  induction entries generalizing store with
  | nil => rfl
  | cons e rest ih => exact ih (store.set e.1 e.2.toText)

theorem run_writeGenerated (generators : List (String × Generator)) (store : Store) (words : Words) :
    (writeGenerated generators).run (store, words) = (.ok (), generateAll generators store words) := by
  induction generators generalizing store words with
  | nil => rfl
  | cons e rest ih => exact ih (store.set e.1 (e.2.generate words).1) (e.2.generate words).2

/-- Writing in place leaves what writing at once leaves, and all as it was where this fails. -/
theorem run_seedInPlace (suite : Suite) (store : Store) (words : Words) :
    suite.seedInPlace.run (store, words) =
      match suite.seed store words with
      | .ok left => (.ok (), left)
      | .error e => (.error e, (store, words)) := by
  cases hg : suite.generators with
  | error e =>
      rw [(suite.seed_eq_error_iff store words e).2 hg]
      simp only [seedInPlace, hg]
      rfl
  | ok generators =>
      have hchecked : (ExceptT.mk (pure suite.generators) : InPlace (List (String × Generator))).run (store, words) =
          (.ok generators, (store, words)) := by
        rw [hg]
        rfl
      rw [suite.seed_of_generators store words hg, seedInPlace, InPlace.run_bind_of_ok hchecked,
        InPlace.run_bind_of_ok (run_writeLiterals _ store words), run_writeGenerated]

/-! ## What is set -/

/-- A generated value for each variable that is to have one. -/
theorem Generated.names {entries : List (String × String)} {words left : Words} {values : Writes}
    (h : Generated entries words values left) : values.map Prod.fst = entries.map Prod.fst := by
  induction h with
  | nil => rfl
  | cons _ _ _ ih => rw [List.map_cons, List.map_cons, ih]

theorem exists_generated {entries : List (String × String)} {generators : List (String × Generator)}
    (h : List.Forall₂ (fun e g => g.1 = e.1 ∧ Generator.Names e.2 g.2) entries generators)
    (store : Store) (words : Words) :
    ∃ values left, Generated entries words values left ∧
      generateAll generators store words = (store.insertAll values, left) := by
  induction h generalizing store words with
  | nil => exact ⟨[], words, .nil words, rfl⟩
  | @cons e g _ _ hfirst _ ih =>
      obtain ⟨target, kind⟩ := e
      obtain ⟨_, g⟩ := g
      obtain ⟨rfl, hkind⟩ := hfirst
      obtain ⟨values, left, hvalues, hstore⟩ := ih (store.set _ (g.generate words).1) (g.generate words).2
      exact ⟨(_, (g.generate words).1) :: values, left, .cons hkind rfl hvalues, hstore⟩

/-- What the literal values of a suite are written as. -/
def literals (suite : Suite) : Writes :=
  suite.assigned.entries.map fun (name, value) => (name, value.toText)

theorem last?_literals (suite : Suite) (target : String) :
    suite.literals.last? target = (suite.assigned.get? target).map ScalarValue.toText := by
  have hnames : suite.literals.map Prod.fst = suite.assigned.entries.map Prod.fst := by
    rw [literals, List.map_map]
    rfl
  cases hget : suite.assigned.get? target with
  | none =>
      rw [Option.map_none, Writes.last?_eq_none_iff, hnames]
      exact Entries.get?_eq_none_iff.1 hget
  | some value =>
      refine Writes.last?_of_nodup ?_ (List.mem_map.2 ⟨_, Table.get?_eq_some_iff.1 hget, rfl⟩)
      rw [hnames]
      exact Entries.nodup_of_ascending suite.assigned.ascending

/-- Where all kinds are known, generated values are written over literal ones, and these over what was there. -/
theorem exists_seed {suite : Suite}
    (h : ∀ name kind, suite.generated.get? name = some kind → ¬ UnknownKind kind) (store : Store) (words : Words) :
    ∃ values left, Generated suite.generated.entries words values left ∧
      suite.seed store words = .ok ((store.insertAll suite.literals).insertAll values, left) := by
  obtain ⟨generators, hgenerators, hkinds⟩ := exists_generators h
  obtain ⟨values, left, hvalues, hstore⟩ := exists_generated hkinds (store.insertAll suite.literals) words
  exact ⟨values, left, hvalues, (suite.seed_of_generators store words hgenerators).trans (congrArg Except.ok hstore)⟩

/-- Setting the variables of a suite is all or nothing, also when it is done in place. If there is a variable whose
generated value is of no known kind, the first one in the order of the names is reported, and no variable has been
written and no word taken. Otherwise each variable that is to have a generated value has a new one, also if there
is a literal value for it, each other one with a literal value has the text of that, and all others are left alone;
the words are taken by one generator after the other, in the order of the names. -/
theorem seeding_law (suite : Suite) (store : Store) (words : Words) :
    ((∃ name kind, suite.generated.get? name = some kind ∧ UnknownKind kind) →
      ∃ name kind, suite.FirstUnknown name kind ∧
        suite.seed store words = .error (.unknownGenerator name kind) ∧
        suite.seedInPlace.run (store, words) = (.error (.unknownGenerator name kind), (store, words))) ∧
    ((∀ name kind, suite.generated.get? name = some kind → ¬ UnknownKind kind) →
      ∃ values store' left, Generated suite.generated.entries words values left ∧
        suite.seed store words = .ok (store', left) ∧
        suite.seedInPlace.run (store, words) = (.ok (), (store', left)) ∧
        (∀ name kind, suite.generated.get? name = some kind →
          ∃ value, (name, value) ∈ values ∧ store'.get? name = some value) ∧
        (∀ name value, suite.generated.get? name = none → suite.assigned.get? name = some value →
          store'.get? name = some value.toText) ∧
        (∀ name, suite.generated.get? name = none → suite.assigned.get? name = none →
          store'.get? name = store.get? name)) := by
  have hrun := suite.run_seedInPlace store words
  constructor
  · rintro ⟨faulty, kind, hget, hunknown⟩
    cases hg : suite.generators with
    | ok generators => exact absurd hunknown (known_of_generators hg hget)
    | error e =>
        obtain ⟨name, kind, hfirst, rfl⟩ := (suite.generators_eq_error_iff e).1 hg
        have hseed := (suite.seed_eq_error_iff store words _).2 hg
        rw [hseed] at hrun
        exact ⟨name, kind, hfirst, hseed, hrun⟩
  · intro hknown
    obtain ⟨values, left, hvalues, hseed⟩ := exists_seed hknown store words
    rw [hseed] at hrun
    have hlast : ∀ name, ((store.insertAll suite.literals).insertAll values).get? name =
        (values.last? name).or (((suite.assigned.get? name).map ScalarValue.toText).or (store.get? name)) := by
      intro name
      rw [Store.get?_insertAll, Store.get?_insertAll, last?_literals]
    have hnames : ∀ name, suite.generated.get? name = none ↔ values.last? name = none := by
      intro name
      rw [Writes.last?_eq_none_iff, hvalues.names]
      exact Entries.get?_eq_none_iff
    refine ⟨values, _, left, hvalues, hseed, hrun, ?_, ?_, ?_⟩
    · intro name kind hget
      cases hvalue : values.last? name with
      | none => simp [(hnames name).2 hvalue] at hget
      | some value => exact ⟨value, Writes.mem_of_last? hvalue, by rw [hlast, hvalue, Option.some_or]⟩
    · intro name value hgenerated hassigned
      rw [hlast, (hnames name).1 hgenerated, hassigned, Option.none_or, Option.map_some, Option.some_or]
    · intro name hgenerated hassigned
      rw [hlast, (hnames name).1 hgenerated, hassigned, Option.none_or, Option.map_none, Option.none_or]

/-- A generated value goes over a literal one, and a word that is refused is taken all the same. Of two kinds that
are not known the one of the smaller name is reported, whatever stands first in the suite. -/
theorem seeding_law_overlapping :
    let suite := { Suite.empty with
      assigned := .ofList [("COUNT", .integer 3), ("MAIL", .text "nobody")]
      generated := .ofList [("SUM", "number"), ("MAIL", "eMail")] }
    let faulty := { suite with generated := .ofList [("MAIL", "email"), ("SUM", "uuid"), ("KEY", "Uuid")] }
    let store : Store := .ofList [("COUNT", "old"), ("KEPT", "old")]
    let words : Words := ⟨[42949, 2147483648, 2147483648, 7], 0⟩
    (∀ name kind, suite.generated.get? name = some kind → ¬ UnknownKind kind) ∧
      (∃ store', suite.seed store words = .ok (store', ⟨[7], 3⟩) ∧ store'.get? "COUNT" = some "3" ∧
        store'.get? "MAIL" = some "test-50000@mail.org" ∧ store'.get? "SUM" = some "500000" ∧
        store'.get? "KEPT" = some "old") ∧
      (faulty.generated.get? "SUM" = some "uuid" ∧ UnknownKind "uuid") ∧
      faulty.seedInPlace.run (store, words) = (.error (.unknownGenerator "KEY" "Uuid"), (store, words)) := by
  intro suite faulty store words
  have hknown : ∀ name kind, suite.generated.get? name = some kind → ¬ UnknownKind kind := by
    intro name kind hget hunknown
    have hentries : suite.generated.entries = [("MAIL", "eMail"), ("SUM", "number")] := by decide +kernel
    have hmem := Table.get?_eq_some_iff.1 hget
    rw [hentries] at hmem
    rcases List.mem_pair.1 hmem with h | h <;> cases h
    · exact hunknown .email (Generator.ofName?_eq_some_iff.1 (by decide))
    · exact hunknown .number (Generator.ofName?_eq_some_iff.1 (by decide))
  have huuid : UnknownKind "uuid" := ofName?_eq_none_iff.1 (by decide)
  have hsum : faulty.generated.get? "SUM" = some "uuid" := by decide +kernel
  obtain ⟨values, store', left, -, hseed, -, -, hliteral, hkept⟩ := (seeding_law suite store words).2 hknown
  obtain ⟨name, kind, -, hrefused, hrun⟩ := (seeding_law faulty store words).1 ⟨"SUM", "uuid", hsum, huuid⟩
  have hdrawn : (suite.seed store words).toOption.map (fun o => (o.1.get? "MAIL", o.1.get? "SUM", o.2)) =
      some (some "test-50000@mail.org", some "500000", ⟨[7], 3⟩) := by decide +kernel
  have hfirst : faulty.generators = .error (.unknownGenerator "KEY" "Uuid") := by decide +kernel
  rw [hseed] at hdrawn
  simp only [Except.toOption, Option.map_some, Option.some.injEq, Prod.mk.injEq] at hdrawn
  obtain ⟨hmail, hnumber, rfl⟩ := hdrawn
  have hreported := (faulty.seed_eq_error_iff store words _).1 hrefused
  rw [hfirst, Except.error.injEq] at hreported
  rw [← hreported] at hrun
  refine ⟨hknown, ⟨store', hseed, ?_, hmail, hnumber, ?_⟩, ⟨hsum, huuid⟩, hrun⟩
  · exact hliteral "COUNT" (.integer 3) (by decide +kernel) (by decide +kernel)
  · exact hkept "KEPT" (by decide +kernel) (by decide +kernel)

end Suite

end Probe
