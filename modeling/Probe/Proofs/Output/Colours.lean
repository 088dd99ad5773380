import Mathlib.Data.List.Forall2
import Probe.Output
import Probe.Proofs.Decimal.Digits

/-!
# Colours

With colours, terminal sequences stand around parts of what is printed. Taking them out again leaves what is
printed without colours. A part is looked at together with whatever follows it, so that texts can be put together
from their parts: no sequence goes on into the part behind it, and a text without escape characters is left as it
is, be it the very text of a sequence without its first character. Main statements:

* `stripped_rendition_append`: a sequence at the start of a text.
* `SeenAs.append`, `SeenAs.intercalate`: texts that are put together.
* `seenAs_paint`: a text in colours.
* `colouring_law`: the lines of a report and of a summary.
-/

namespace Probe

open Probe.Text
open Probe.Decimal

/-- The character that a terminal sequence starts with. -/
def escapeChar : Char := '\x1b'

/-- The number of characters that a terminal sequence has behind its escape character: a bracket, digits and the
letter m. -/
def sequenceTail? (s : List Char) : Option Nat := do
  let inner ← dropLead? ['['] s
  let digits := inner.takeWhile isDigit
  let _ ← dropLead? ['m'] (inner.dropWhile isDigit)
  if digits = [] then none else some (digits.length + 2)

/-- A text without its terminal sequences. The first `inside` characters belong to a sequence that has been
found. -/
def stripped : (inside : Nat) → List Char → List Char
  | _, [] => []
  | inside + 1, _ :: rest => stripped inside rest
  | 0, c :: rest =>
      match if c = escapeChar then sequenceTail? rest else none with
      | some inside => stripped inside rest
      | none => c :: stripped 0 rest

/-- A text without its terminal sequences. -/
def withoutSequences (s : String) : String :=
  String.ofList (stripped 0 s.toList)

/-! ## Taking sequences out -/

theorem stripped_eq_drop (inside : Nat) (s : List Char) : stripped inside s = stripped 0 (s.drop inside) := by
  induction inside generalizing s with
  | zero => rw [List.drop_zero]
  | succ inside ih =>
      cases s with
      | nil => rfl
      | cons c rest => exact ih rest

/-- Without an escape character there is nothing to take out. -/
theorem stripped_append {s : List Char} (h : escapeChar ∉ s) (rest : List Char) :
    stripped 0 (s ++ rest) = s ++ stripped 0 rest := by
  induction s with
  | nil => rfl
  | cons c s ih =>
      obtain ⟨hc, hs⟩ := not_or.1 (mt List.mem_cons.2 h)
      rw [List.cons_append, stripped, if_neg (Ne.symm hc), ih hs, List.cons_append]

/-- The code of a rendition. -/
def isCode (code : String) : Bool :=
  !code.toList.isEmpty && code.toList.all isDigit

theorem sequenceTail?_append {code : List Char} (hne : code ≠ []) (hdigits : ∀ c ∈ code, isDigit c = true)
    (rest : List Char) : sequenceTail? ('[' :: (code ++ 'm' :: rest)) = some (code.length + 2) := by
  have hstop : ∀ c ∈ ('m' :: rest).head?, isDigit c = false := by
    rintro c ⟨⟩
    rfl
  obtain ⟨htake, hdrop⟩ := takeWhile_append_of_stop hdigits hstop
  simp only [sequenceTail?, dropLead?, if_true, Option.bind_eq_bind, Option.bind_some, htake, hdrop, if_neg hne]

/-- A sequence is taken out as a whole, and what follows it is read on its own. -/
theorem stripped_rendition_append {code : String} (h : isCode code = true) (rest : List Char) :
    stripped 0 ((Style.rendition code).toList ++ rest) = stripped 0 rest := by
  simp only [isCode, Bool.and_eq_true, Bool.not_eq_true', List.isEmpty_eq_false_iff, List.all_eq_true] at h
  have htext : (Style.rendition code).toList ++ rest =
      escapeChar :: ('[' :: (code.toList ++ 'm' :: rest)) := by
    simp [Style.rendition, escapeChar]
  rw [htext, stripped, if_pos rfl, sequenceTail?_append h.1 h.2]
  simp only
  rw [stripped_eq_drop, List.drop_succ_cons, ← List.drop_drop, List.drop_left, List.drop_succ_cons, List.drop_zero]

/-! ## What is seen of a text -/

/-- A text is seen as another one: that one is left when the terminal sequences are taken out, whatever follows. -/
def SeenAs (s t : String) : Prop :=
  ∀ rest, stripped 0 (s.toList ++ rest) = t.toList ++ stripped 0 rest

namespace SeenAs

variable {s t s' t' : String}

theorem withoutSequences_eq (h : SeenAs s t) : withoutSequences s = t := by
  have hall := h []
  rw [List.append_nil, stripped, List.append_nil] at hall
  rw [withoutSequences, hall, String.ofList_toList]

theorem of_notMem (h : escapeChar ∉ t.toList) : SeenAs t t :=
  stripped_append h

theorem append (h : SeenAs s t) (h' : SeenAs s' t') : SeenAs (s ++ s') (t ++ t') := by
  intro rest
  rw [String.toList_append, String.toList_append, List.append_assoc, List.append_assoc, h, h']

theorem intercalate {sep : String} (hsep : escapeChar ∉ sep.toList) {ss ts : List String}
    (h : List.Forall₂ SeenAs ss ts) : SeenAs (sep.intercalate ss) (sep.intercalate ts) := by
  induction h with
  | nil => exact of_notMem (by simp)
  | @cons s t ss ts hfirst hrest ih =>
      cases hrest with
      | nil => simpa using hfirst
      | cons =>
          rw [String.intercalate_cons_cons, String.intercalate_cons_cons]
          exact (hfirst.append (of_notMem hsep)).append ih

theorem rendition {code : String} (h : isCode code = true) : SeenAs (Style.rendition code) "" :=
  stripped_rendition_append h

theorem renditions {codes : List String} (h : ∀ code ∈ codes, isCode code = true) :
    SeenAs (String.join (codes.map Style.rendition)) "" := by
  induction codes with
  | nil => exact of_notMem (by simp)
  | cons code codes ih =>
      obtain ⟨hcode, hcodes⟩ := List.forall_mem_cons.1 h
      rw [List.map_cons, String.join_cons]
      exact (rendition hcode).append (ih hcodes)

end SeenAs

/-! ## What is printed -/

/-- A report whose texts hold no escape character. -/
structure Report.Unescaped (r : Report) : Prop where
  id : escapeChar ∉ r.id.toList
  message : escapeChar ∉ r.message.toList

namespace Style

variable (style : Style)

/-- A text in colours is seen as the text. -/
theorem seenAs_paint {codes : List String} (hcodes : ∀ code ∈ codes, isCode code = true) {text : String}
    (htext : escapeChar ∉ text.toList) : SeenAs (style.paint codes text) text := by
  unfold paint
  split
  · have hreset : SeenAs (rendition "0") "" := .rendition (by decide)
    have hall := ((SeenAs.renditions hcodes).append (.of_notMem htext)).append hreset
    simpa using hall
  · exact .of_notMem htext

theorem notMem_toString (n : Nat) : escapeChar ∉ (toString n).toList := by
  rw [Nat.toString_eq_ofList_toDigits, String.toList_ofList]
  intro hmem
  have hdigit := (spells_toDigits n).isDigit _ hmem
  exact absurd hdigit (by decide)

/-- The same style without colours. -/
def uncoloured : Style := { style with colors := false }

theorem seenAs_badge (status : Status) : SeenAs (style.badge status) (style.uncoloured.badge status) := by
  refine style.seenAs_paint ?_ ?_
  · cases status <;> decide
  · cases status <;> decide

theorem seenAs_reportLine {r : Report} (hr : r.Unescaped) :
    SeenAs (style.reportLine r) (style.uncoloured.reportLine r) := by
  have hspace : SeenAs " " " " := .of_notMem (by decide)
  have hdash : SeenAs " - " " - " := .of_notMem (by decide)
  exact ((((style.seenAs_badge r.status).append hspace).append (.of_notMem hr.id)).append hdash).append
    (.of_notMem hr.message)

theorem seenAs_summaryLine (s : Summary) : SeenAs (style.summaryLine s) (style.uncoloured.summaryLine s) := by
  have hentry (code label : String) (n : Nat) (hcode : isCode code = true) (hlabel : escapeChar ∉ label.toList) :
      SeenAs (style.paint [code] label ++ ": " ++ toString n) (label ++ ": " ++ toString n) := by
    have hcolon : SeenAs ": " ": " := .of_notMem (by decide)
    have hpainted := style.seenAs_paint (List.forall_mem_singleton.2 hcode) hlabel
    exact (hpainted.append hcolon).append (.of_notMem (notMem_toString n))
  refine SeenAs.intercalate (by decide) ?_
  exact .cons (hentry "34" "Tests" _ (by decide) (by decide))
    (.cons (hentry "32" "Passed" _ (by decide) (by decide))
      (.cons (hentry "31" "Failed" _ (by decide) (by decide))
        (.cons (hentry "90" "Skipped" _ (by decide) (by decide))
          (.cons (hentry "31" "Error" _ (by decide) (by decide)) .nil))))

theorem seenAs_errorLines {s : Summary} (hs : ∀ r ∈ s.reports, r.Unescaped) :
    List.Forall₂ SeenAs (style.errorLines s) (style.uncoloured.errorLines s) := by
  unfold errorLines
  show List.Forall₂ SeenAs (if style.verboseErrors then _ else _) (if style.verboseErrors then _ else _)
  split
  · rw [List.forall₂_map_left_iff, List.forall₂_map_right_iff, List.forall₂_same]
    intro id hid
    obtain ⟨r, hr, rfl⟩ := List.mem_map.1 hid
    have hcode : ∀ code ∈ ["34"], isCode code = true := by decide
    have hid := (hs r (List.mem_filter.1 hr).1).id
    have hcolon : SeenAs ": " ": " := .of_notMem (by decide)
    have hname : SeenAs Status.error.name Status.error.name := .of_notMem (by decide)
    exact ((style.seenAs_paint hcode hid).append hcolon).append hname
  · exact .nil

end Style

/-- Colours change nothing but colours. With the terminal sequences taken out, the line of a report, the line of a
summary and each line of a case that met an error are what is printed without colours. Identifiers and messages may
be any texts without escape characters, also such that look like a part of a sequence. -/
theorem colouring_law (style : Style) (r : Report) (s : Summary) (hr : r.Unescaped)
    (hs : ∀ r ∈ s.reports, r.Unescaped) :
    let coloured := { style with colors := true }
    let plain := { style with colors := false }
    withoutSequences (coloured.reportLine r) = plain.reportLine r ∧
      withoutSequences (coloured.summaryLine s) = plain.summaryLine s ∧
      (coloured.errorLines s).map withoutSequences = plain.errorLines s := by
  intro coloured plain
  refine ⟨(coloured.seenAs_reportLine hr).withoutSequences_eq,
    (coloured.seenAs_summaryLine s).withoutSequences_eq, ?_⟩
  have hlines : List.Forall₂ SeenAs (coloured.errorLines s) (plain.errorLines s) := coloured.seenAs_errorLines hs
  rw [← List.forall₂_eq_eq_eq, List.forall₂_map_left_iff]
  exact hlines.imp fun _ _ h => h.withoutSequences_eq

/-- Texts that look like the end of a sequence stay next to the sequences of a badge. -/
theorem colouring_law_lookalike :
    let r : Report := ⟨"[31m", .error, "[0m1;m", false, none, none⟩
    let s : Summary := ⟨[r]⟩
    let style : Style := { Style.plain with verboseErrors := true }
    let coloured := { style with colors := true }
    r.Unescaped ∧ (∀ r ∈ s.reports, r.Unescaped) ∧
      coloured.reportLine r = "\x1b[41m\x1b[30mERROR\x1b[0m [31m - [0m1;m" ∧
      withoutSequences (coloured.reportLine r) = "ERROR [31m - [0m1;m" ∧
      withoutSequences (coloured.summaryLine s) = "Tests: 1 | Passed: 0 | Failed: 0 | Skipped: 0 | Error: 1" ∧
      coloured.errorLines s = ["\x1b[34m[31m\x1b[0m: ERROR"] ∧
      (coloured.errorLines s).map withoutSequences = ["[31m: ERROR"] := by
  intro r s style coloured
  have hr : r.Unescaped := ⟨by decide, by decide⟩
  have hs : ∀ r ∈ s.reports, r.Unescaped := List.forall_mem_singleton.2 hr
  obtain ⟨hreport, hsummary, herrors⟩ := colouring_law style r s hr hs
  refine ⟨hr, hs, by decide +kernel, hreport.trans ?_, hsummary.trans ?_, by decide +kernel, herrors.trans ?_⟩
  · decide +kernel
  · decide +kernel
  · decide +kernel

end Probe
