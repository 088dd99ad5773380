import Probe.Config.Load
import Probe.Proofs.Yaml.Places

/-!
# Fields that a configuration file does not mention

Each field of a configuration file sets its own part of the configuration. A part whose field is not mentioned is
that of a file without fields, which is not always that of the configuration without a file. Main statement:
`searchesAs_blank_of_parse`.
-/

namespace Probe.Config

open Probe.Yaml

/-- The fields that settle which files are discovered, and where. -/
def searchFields : List String := ["test_pattern", "root", "recursive", "exclude"]

/-- A text is a document that has a field of this name. -/
def Mentions (text name : String) : Prop :=
  ∃ d, Document.ofText? text = some d ∧ name ∈ d.fieldNames d.place.node

theorem not_mentions {text name : String} {names : List String}
    (h : ((Document.ofText? text).map fun d => d.fieldNames d.place.node) = some names) (hname : name ∉ names) :
    ¬ Mentions text name := by
  rintro ⟨d, hd, hmem⟩
  rw [hd] at h
  exact hname (Option.some.inj h ▸ hmem)

/-- Two configurations discover the same files. -/
structure SearchesAs (c d : Config) : Prop where
  pattern : c.pattern = d.pattern
  root : c.root = d.root
  recursive : c.recursive = d.recursive
  exclude : c.exclude = d.exclude

/-- Other fields leave alone what is discovered. -/
theorem searchesAs_of_assign {record p : Place} {name : String} {b b' c : Config} {n n' : Nat}
    (hname : name ∉ searchFields) (h : (assign record name p b).run n = .ok (b', n')) (hb : b.SearchesAs c) :
    b'.SearchesAs c := by
  unfold assign at h
  dsimp only at h
  -- The first four fields are those that settle what is discovered.
  split at h
  · exact absurd (by decide) hname
  · exact absurd (by decide) hname
  · exact absurd (by decide) hname
  · exact absurd (by decide) hname
  · exact Place.of_run_update (SearchesAs · c) h fun url => ⟨hb.pattern, hb.root, hb.recursive, hb.exclude⟩
  · exact Place.of_run_update (SearchesAs · c) h fun host => ⟨hb.pattern, hb.root, hb.recursive, hb.exclude⟩
  · exact Place.of_run_update (SearchesAs · c) h fun number => ⟨hb.pattern, hb.root, hb.recursive, hb.exclude⟩
  · exact Place.of_run_update (SearchesAs · c) h fun timeout => ⟨hb.pattern, hb.root, hb.recursive, hb.exclude⟩
  · cases h
    exact hb

/-- A file that mentions none of these fields discovers what a file without fields does. -/
theorem searchesAs_blank_of_parse {text : String} {c : Config} (hparse : parse text = .ok c)
    (hnone : ∀ name ∈ searchFields, ¬ Mentions text name) : c.SearchesAs blank := by
  obtain ⟨d, n', hd, hread⟩ := exists_of_read hparse
  have hrecord : (d.place.record "Config" fields [] false (assign d.place) blank).run (100 * d.size) =
      .ok (c, n') := hread
  refine Place.of_run_record (SearchesAs · blank) hrecord ?_ ⟨rfl, rfl, rfl, rfl⟩
  intro name hmem value b b' m m' hassign hb
  exact searchesAs_of_assign (fun hsearch => hnone name hsearch ⟨d, hd, hmem⟩) hassign hb

end Probe.Config
