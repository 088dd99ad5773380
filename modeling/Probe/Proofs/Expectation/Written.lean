import Mathlib.Data.List.Perm.Basic
import Probe.Proofs.Expectation.Search

/-!
# Directives written out

The directives that an expectation has can be written one after the other and read again. The order in which
they are written does not count: the texts of the three forms do not run into each other, because a directive
starts with no character of a name, and none hides the start of one of another form. Main statements:

* `complete_text_append`: a directive at the start of a text.
* `complete_written`: directives one after the other, of which the first one of each form counts.
* `directives_parse_written`: what is read of directives one after the other.
* `readable_of_parse`: what is read can be read again.
* `writing_law`: the directives of an expectation, written in any order.
-/

namespace Probe

open Probe.Text

/-- A directive. -/
inductive Directive where
  | reference (name : String)
  | tag (t : TypeTag)
  | capture (name : String)
  deriving DecidableEq, Repr

namespace Directive

/-- A directive as it stands in an expectation. -/
def text : Directive → String
  | reference name => "\x7b" ++ name ++ "\x7d"
  | tag t => t.text
  | capture name => ">>" ++ name

/-- The form that a directive is written in. -/
def form : Directive → Form
  | reference _ => .reference
  | tag _ => .tag
  | capture _ => .capture

/-- The name that a directive is written with. -/
def name : Directive → String
  | reference name => name
  | tag t => t.name
  | capture name => name

/-- A directive that reading may come to: it is written with the name of a variable or of a kind, and a tag is the
one that its name stands for. -/
structure Readable (d : Directive) : Prop where
  nonempty : d.name.toList ≠ []
  chars : ∀ c ∈ d.name.toList, isNameChar c = true
  /-- No unknown tag is spelled like a known one. -/
  known : ∀ t, d = .tag t → TypeTag.ofName t.name = t

theorem toList_text (d : Directive) : d.text.toList = d.form.spell d.name.toList := by
  cases d with
  | reference name => simp [text, form, Directive.name, Form.spell, Form.reference]
  | tag t => simp [text, TypeTag.text, form, Directive.name, Form.spell, Form.tag]
  | capture name => simp [text, form, Directive.name, Form.spell, Form.capture]

end Directive

/-- The text of directives, one after the other. -/
def written (order : List Directive) : String :=
  String.join (order.map Directive.text)

theorem toList_written_cons (d : Directive) (order : List Directive) :
    (written (d :: order)).toList = d.text.toList ++ (written order).toList := by
  simp [written]

/-- What is written after a name does not go on with it. -/
theorem head_written (order : List Directive) :
    ∀ c ∈ (written order).toList.head?, isNameChar c = false := by
  cases order with
  | nil => exact nofun
  | cons d order =>
      intro c hc
      apply d.form.opensApart
      have hopens := d.form.opens
      rw [toList_written_cons, d.toList_text, Form.spell] at hc
      obtain ⟨o, opening, ho⟩ := List.exists_cons_of_ne_nil hopens
      rw [ho] at hc ⊢
      exact hc

/-! ## Reading one directive -/

section

variable (f : Form) {name rest : List Char} (hne : name ≠ []) (hname : ∀ c ∈ name, isNameChar c = true)
  (hrest : ∀ c ∈ rest.head?, isNameChar c = false)

include hne hname hrest

/-- A name ends where its form is closed, and where nothing closes it, before the next directive. -/
theorem Form.at?_spell_append : f.at? (f.spell name ++ rest) = some name := by
  have hstop : ∀ c ∈ (f.closing ++ rest).head?, isNameChar c = false := by
    cases hclosing : f.closing with
    | nil => exact hrest
    | cons c closing =>
        rintro _ ⟨⟩
        exact f.closes c (by simp [hclosing])
  have hopening : dropLead? f.opening (f.spell name ++ rest) = some (name ++ (f.closing ++ rest)) := by
    rw [Form.spell, List.append_assoc, List.append_assoc]
    exact dropLead?_append _ _
  obtain ⟨htake, hdrop⟩ := takeWhile_append_of_stop hname hstop
  simp only [Form.at?, hopening, htake, hdrop, dropLead?_append, Option.bind_eq_bind, Option.bind_some,
    if_neg hne]

/-- A directive at the start of a text is the one that is found. -/
theorem Form.search?_spell_append_self : f.search? (f.spell name ++ rest) = some name := by
  obtain ⟨c, s, hs⟩ := List.exists_cons_of_ne_nil (show f.spell name ++ rest ≠ [] by simp [Form.spell, hne])
  have hat := f.at?_spell_append hne hname hrest
  rw [hs] at hat ⊢
  exact f.search?_of_at? hat

end

namespace Directives

/-- What is known after a directive: it counts unless one of its form is known already. -/
def note (found : Directives) : Directive → Directives
  | .reference name => { found with reference := found.reference.or (some name) }
  | .tag t => { found with tag := found.tag.or (some t) }
  | .capture name => { found with capture := found.capture.or (some name) }

/-- A directive at the start of a text is noted, and hides nothing of what follows it. -/
theorem complete_text_append (found : Directives) {d : Directive} (h : d.Readable) {rest : List Char}
    (hrest : ∀ c ∈ rest.head?, isNameChar c = false) :
    found.complete (d.text.toList ++ rest) = (found.note d).complete rest := by
  have hself := d.form.search?_spell_append_self h.nonempty h.chars hrest
  have hother (g : Form) (hapart : g.isApartFrom d.form = true) :=
    Form.search?_spell_append hapart h.chars rest
  rw [d.toList_text]
  cases d with
  | reference name =>
      have htag := hother .tag rfl
      have hcapture := hother .capture rfl
      simp only [Directive.form, Directive.name] at hself htag hcapture ⊢
      simp [complete, note, hself, htag, hcapture]
  | tag t =>
      have hreference := hother .reference rfl
      have hcapture := hother .capture rfl
      have hknown := h.known t rfl
      simp only [Directive.form, Directive.name] at hself hreference hcapture ⊢
      simp [complete, note, hself, hreference, hcapture, hknown]
  | capture name =>
      have hreference := hother .reference rfl
      have htag := hother .tag rfl
      simp only [Directive.form, Directive.name] at hself hreference htag ⊢
      simp [complete, note, hself, hreference, htag]

/-- Directives are read one after the other, and of those of one form the first one counts. -/
theorem complete_written (found : Directives) {order : List Directive} (h : ∀ d ∈ order, d.Readable) :
    found.complete (written order).toList = order.foldl note found := by
  induction order generalizing found with
  | nil => exact found.complete_nil
  | cons d order ih =>
      obtain ⟨hd, horder⟩ := List.forall_mem_cons.1 h
      rw [toList_written_cons, found.complete_text_append hd (head_written order), ih _ horder, List.foldl_cons]

/-! ## The order of directives -/

/-- The directives that there are. -/
def toList (found : Directives) : List Directive :=
  (found.reference.map .reference).toList ++ (found.tag.map .tag).toList ++ (found.capture.map .capture).toList

/-- Two of the directives that there are may be noted in either order: they are of two forms, or one and the
same. -/
theorem note_comm {found : Directives} {d d' : Directive} (hd : d ∈ found.toList) (hd' : d' ∈ found.toList)
    (known : Directives) : (known.note d).note d' = (known.note d').note d := by
  cases d <;> cases d' <;> simp_all [toList, note]

/-- Noting them leads back to them. -/
theorem foldl_note_toList (found : Directives) : found.toList.foldl note .empty = found := by
  obtain ⟨reference, tag, capture⟩ := found
  cases reference <;> cases tag <;> cases capture <;> rfl

theorem foldl_note_perm {found : Directives} {order : List Directive} (h : order.Perm found.toList) :
    order.foldl note .empty = found := by
  have hcomm : ∀ d ∈ order, ∀ d' ∈ order, ∀ known : Directives,
      (known.note d).note d' = (known.note d').note d := fun d hd d' hd' =>
    note_comm (h.mem_iff.1 hd) (h.mem_iff.1 hd')
  rw [h.foldl_eq' hcomm, foldl_note_toList]

end Directives

/-! ## What is read -/

/-- What a search finds is a name. -/
theorem Form.name_of_search? {f : Form} {s name : List Char} (h : f.search? s = some name) :
    name ≠ [] ∧ ∀ c ∈ name, isNameChar c = true := by
  have hfinds := f.finds_search? s
  rw [h] at hfinds
  cases hfinds with
  | first hmatch _ => exact ⟨hmatch.nonempty, hmatch.isNameChar⟩

/-- A directive with a name that a search finds can be read again. -/
theorem Directive.readable_of_search? {f : Form} {s name : List Char} (h : f.search? s = some name)
    {d : Directive} (hname : d.name = String.ofList name) (hknown : ∀ t, d = .tag t → TypeTag.ofName t.name = t) :
    d.Readable := by
  obtain ⟨hne, hchars⟩ := Form.name_of_search? h
  have hlist : d.name.toList = name := by rw [hname, String.toList_ofList]
  exact ⟨hlist ▸ hne, hlist ▸ hchars, hknown⟩

namespace Expectation

/-- What is read of a text can be read again. -/
theorem readable_of_parse (raw : String) : ∀ d ∈ (parse raw).directives.toList, d.Readable := by
  have hread : (parse raw).directives = Directives.empty.complete raw.toList :=
    Directives.scan_eq_complete .empty 0 raw.toList
  intro d hd
  rw [hread] at hd
  simp only [Directives.toList, Directives.complete, Directives.empty, Option.none_or, List.mem_append,
    Option.mem_toList, Option.map_map, Option.map_eq_some_iff, Function.comp_apply] at hd
  obtain (⟨name, hname, rfl⟩ | ⟨name, hname, rfl⟩) | ⟨name, hname, rfl⟩ := hd
  · exact Directive.readable_of_search? hname rfl fun t ht => by cases ht
  · -- A tag that is made from a name has that name, so that it is made from its own name.
    have htag := TypeTag.name_ofName (String.ofList name)
    refine Directive.readable_of_search? hname htag ?_
    rintro t ⟨⟩
    rw [htag]
  · exact Directive.readable_of_search? hname rfl fun t ht => by cases ht

/-- Of directives that are written one after the other the first one of each form is read. -/
theorem directives_parse_written {order : List Directive} (h : ∀ d ∈ order, d.Readable) :
    (parse (written order)).directives = order.foldl Directives.note .empty :=
  (Directives.scan_eq_complete .empty 0 (written order).toList).trans (Directives.complete_written .empty h)

/-- The directives of an expectation, written one after the other in any order, are read as what they are: the
same reference, the same tag, be it of a known kind or not, and the same capture. -/
theorem writing_law (raw : String) (order : List Directive) (h : order.Perm (parse raw).directives.toList) :
    (parse (written order)).reference = (parse raw).reference ∧
      (parse (written order)).tag = (parse raw).tag ∧
      (parse (written order)).capture = (parse raw).capture := by
  have hreadable : ∀ d ∈ order, d.Readable := fun d hd => readable_of_parse raw d (h.mem_iff.1 hd)
  have hread : (parse (written order)).directives = (parse raw).directives := by
    rw [directives_parse_written hreadable, Directives.foldl_note_perm h]
  simp only [reference, tag, capture, hread, and_self]

/-- A capture comes first and takes nothing of the tag behind it, whose kind is not known. -/
theorem writing_law_unknown :
    let raw := "a\x7bUSER\x7d [uuid] >>ID>>LATER"
    let order : List Directive := [.capture "ID", .tag (.unknown "uuid"), .reference "USER"]
    order.Perm (parse raw).directives.toList ∧ written order = ">>ID[uuid]\x7bUSER\x7d" ∧
      (parse (written order)).reference = some "USER" ∧
      (parse (written order)).tag = some (.unknown "uuid") ∧
      (parse (written order)).capture = some "ID" := by
  intro raw order
  have hperm : order.Perm (parse raw).directives.toList := by decide +kernel
  obtain ⟨hreference, htag, hcapture⟩ := writing_law raw order hperm
  have hraw : (parse raw).directives = ⟨some "USER", some (.unknown "uuid"), some "ID"⟩ := by decide +kernel
  refine ⟨hperm, by decide +kernel, hreference.trans ?_, htag.trans ?_, hcapture.trans ?_⟩
  · rw [reference, hraw]
  · rw [tag, hraw]
  · rw [capture, hraw]

end Expectation

end Probe
