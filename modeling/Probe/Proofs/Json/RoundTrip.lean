import Mathlib.Data.List.DropRight
import Mathlib.Data.List.Forall2
import Probe.Proofs.Json.Members
import Probe.Proofs.Json.ReadBack

/-!
# Printed values are read back

Both ways to write a value put the parts of a container between brackets, with commas between them and perhaps
blanks around them. The reader passes over blanks, so that one lemma for arrays and one for objects serve both.
Main statements:

* `readItems_following`, `readMembers_following`: the parts of a container, one after the other.
* `readsAs_array`, `readsAs_object`: a container whose parts are read back is read back itself.
* `read_compact_of_exactWithin`, `read_pretty_of_exactWithin`: the two printers.
-/

namespace Probe.Json

open Probe.Text

/-- A value of which nothing is lost when it is printed and read: its numbers are integers of 64 bits, and its
containers are nested at most `depth` deep. The keys of an object are in ascending order, as `membersOf` leaves
them. -/
inductive Value.ExactWithin : (depth : Nat) → Value → Prop where
  | null {depth : Nat} : ExactWithin depth .null
  | scalar {depth : Nat} {v : Value} (h : v.Exact) : ExactWithin depth v
  | array {depth : Nat} {items : List Value} (h : ∀ v ∈ items, ExactWithin depth v) :
      ExactWithin (depth + 1) (.array items)
  | object {depth : Nat} {members : List (String × Value)} (hkeys : Entries.Ascending members)
      (h : ∀ m ∈ members, ExactWithin depth m.2) : ExactWithin (depth + 1) (.object members)

/-! ## Blanks -/

theorem skipSpace_received {gap : List Char} (h : ∀ c ∈ gap, isSpace (.char c) = true) (t : Encoded) :
    skipSpace (received gap ++ t) = skipSpace t := by
  refine List.dropWhile_append_of_pos fun p hp => ?_
  obtain ⟨c, hc, rfl⟩ := List.mem_map.1 hp
  exact h c hc

/-- A value may have blanks in front. -/
theorem readValue_skipSpace (depth : Nat) (t : Encoded) : readValue depth (skipSpace t) = readValue depth t := by
  have htwice : skipSpace (skipSpace t) = skipSpace t := List.dropWhile_idempotent isSpace t
  unfold readValue
  simp only [htwice]

/-- Neither the end of the text nor a closing bracket is read as a value. -/
theorem exists_skipSpace_of_readValue {depth : Nat} {t rest : Encoded} {v : Value}
    (h : readValue depth t = .ok (v, rest)) : ∃ p t', skipSpace t = p :: t' ∧ p ≠ .char ']' := by
  unfold readValue at h
  cases ht : skipSpace t with
  | nil =>
      simp only [ht] at h
      cases h
  | cons p t' =>
      refine ⟨p, t', rfl, ?_⟩
      rintro rfl
      simp only [ht] at h
      cases h

/-- Blanks in front of a text do not count. -/
theorem ReadsAs.append_left {depth : Nat} {s gap : List Char} {v : Value} (h : ReadsAs depth s v)
    (hgap : ∀ c ∈ gap, isSpace (.char c) = true) : ReadsAs depth (gap ++ s) v := by
  intro rest hrest
  rw [received_append, List.append_assoc, ← readValue_skipSpace, skipSpace_received hgap, readValue_skipSpace]
  exact h rest hrest

/-! ## The parts of a container -/

/-- The blanks that a printer puts into a container: before each part, before the closing bracket, and after the
colon of a member. -/
structure Spacing where
  before : List Char
  last : List Char
  colon : List Char
  before_blank : ∀ c ∈ before, isSpace (.char c) = true
  last_blank : ∀ c ∈ last, isSpace (.char c) = true
  colon_blank : ∀ c ∈ colon, isSpace (.char c) = true

namespace Spacing

/-- What follows a part: the other parts, each after a comma, and the closing bracket. -/
def following (sp : Spacing) (close : Char) : List (List Char) → List Char
  | [] => sp.last ++ [close]
  | part :: rest => ',' :: (sp.before ++ part ++ sp.following close rest)

/-- A container; without parts it is written without blanks. -/
def container (sp : Spacing) (first close : Char) : List (List Char) → List Char
  | [] => [first, close]
  | part :: rest => first :: (sp.before ++ part ++ sp.following close rest)

/-- A member of an object. -/
def member (sp : Spacing) (key : String) (value : List Char) : List Char :=
  stringText key ++ ':' :: (sp.colon ++ value)

variable (sp : Spacing)

theorem length_lt_following (close : Char) (parts : List (List Char)) :
    parts.length < (sp.following close parts).length := by
  induction parts with
  | nil => simp [following]
  | cons part rest ih =>
      simp only [following, List.length_cons, List.length_append]
      omega

/-- What follows a part ends a number. -/
theorem endsNumber_following {close : Char} (hclose : close = ']' ∨ close = '\x7d') (parts : List (List Char))
    (rest : Encoded) : EndsNumber (received (sp.following close parts) ++ rest) := by
  have hblank : ∀ c, isSpace (.char c) = true → c = ' ' ∨ c = '\n' ∨ c = '\t' ∨ c = '\r' := by
    intro c hc
    simpa [isSpace, or_assoc] using hc
  intro p hp
  -- It starts with a comma, a blank or the bracket.
  obtain ⟨c, rfl, hc⟩ : ∃ c, p = .char c ∧ c ∈ [',', ' ', '\n', '\t', '\r', ']', '\x7d'] := by
    cases parts with
    | cons part parts =>
        refine ⟨',', ?_, by simp⟩
        simpa [following, received] using hp.symm
    | nil =>
        cases hlast : sp.last with
        | nil =>
            refine ⟨close, ?_, by rcases hclose with rfl | rfl <;> simp⟩
            simpa [following, received, hlast] using hp.symm
        | cons c gap =>
            refine ⟨c, ?_, ?_⟩
            · simpa [following, received, hlast] using hp.symm
            · rcases hblank c (sp.last_blank c (by simp [hlast])) with rfl | rfl | rfl | rfl <;> simp
  have hends : ∀ c ∈ [',', ' ', '\n', '\t', '\r', ']', '\x7d'], digitOf? 10 (.char c) = none ∧
      Piece.char c ≠ .char '.' ∧ Piece.char c ≠ .char 'e' ∧ Piece.char c ≠ .char 'E' := by
    simp only [List.forall_mem_cons]
    exact ⟨by decide, by decide, by decide, by decide, by decide, by decide, by decide,
      fun _ h => absurd h List.not_mem_nil⟩
  exact hends c hc

end Spacing

/-! ## Arrays -/

/-- An item that is read is the next one. -/
theorem readItems_first {depth budget : Nat} {t t' : Encoded} {v : Value}
    (h : readValue depth t = .ok (v, t')) :
    readItems (readValue depth) (budget + 1) true t =
      (readItems (readValue depth) budget false t').bind fun (vs, rest) => .ok (v :: vs, rest) := by
  obtain ⟨p, u, hu, hp⟩ := exists_skipSpace_of_readValue h
  have hread := readValue_skipSpace depth t
  rw [hu, h] at hread
  simp only [readItems, hu, if_neg hp, if_true, hread]
  rfl

/-- After a comma too, an item that is read is the next one. -/
theorem readItems_comma {depth budget : Nat} {t t' : Encoded} {v : Value}
    (h : readValue depth t = .ok (v, t')) :
    readItems (readValue depth) (budget + 1) false (.char ',' :: t) =
      (readItems (readValue depth) budget false t').bind fun (vs, rest) => .ok (v :: vs, rest) := by
  obtain ⟨p, u, hu, hp⟩ := exists_skipSpace_of_readValue h
  have hread := readValue_skipSpace depth t
  rw [hu, h] at hread
  have hcomma : skipSpace (.char ',' :: t) = .char ',' :: t := rfl
  simp only [readItems, hcomma, hu, if_neg hp, hread]
  rfl

/-- The items behind the first one are read up to the closing bracket. -/
theorem readItems_following (sp : Spacing) {depth : Nat} {parts : List (List Char)} {items : List Value}
    (h : List.Forall₂ (ReadsAs depth) parts items) {budget : Nat} (hbudget : parts.length < budget)
    (rest : Encoded) :
    readItems (readValue depth) budget false (received (sp.following ']' parts) ++ rest) = .ok (items, rest) := by
  obtain ⟨budget, rfl⟩ := Nat.exists_eq_succ_of_ne_zero (Nat.ne_zero_of_lt hbudget)
  induction h generalizing budget with
  | nil =>
      have hskip : skipSpace (received (sp.following ']' []) ++ rest) = .char ']' :: rest := by
        rw [Spacing.following, received_append, List.append_assoc, skipSpace_received sp.last_blank]
        rfl
      simp only [readItems, hskip, if_true]
  | @cons part v parts items hpart _ ih =>
      -- One step is paid for each item, and one for the bracket.
      obtain ⟨budget, rfl⟩ := Nat.exists_eq_succ_of_ne_zero (show budget ≠ 0 by simp at hbudget; omega)
      have hread := hpart.append_left sp.before_blank _ (sp.endsNumber_following (.inl rfl) parts rest)
      rw [Spacing.following, received_cons, received_append, List.cons_append, List.append_assoc,
        readItems_comma hread, ih budget (by simp at hbudget ⊢; omega)]
      rfl

/-- An array whose items are read back is read back. -/
theorem readsAs_array (sp : Spacing) {depth : Nat} {parts : List (List Char)} {items : List Value}
    (h : List.Forall₂ (ReadsAs depth) parts items) :
    ReadsAs (depth + 1) (sp.container '[' ']' parts) (.array items) := by
  intro rest _
  have hopen : ∀ t, readValue (depth + 1) (.char '[' :: t) =
      (readItems (readValue depth) (t.length + 1) true t).bind fun (items, rest) => .ok (.array items, rest) :=
    fun _ => rfl
  cases h with
  | nil => rfl
  | @cons part v parts items hpart hparts =>
      have hread := hpart.append_left sp.before_blank _ (sp.endsNumber_following (.inl rfl) parts rest)
      rw [Spacing.container, received_cons, received_append, List.cons_append, List.append_assoc, hopen,
        readItems_first hread, readItems_following sp hparts]
      · rfl
      · have := sp.length_lt_following ']' parts
        simp only [List.length_append, received, List.length_map]
        omega

/-! ## Objects -/

/-- A text that starts with the quote of a key is read as a member. -/
def MemberReadsAs (depth : Nat) (part : List Char) (m : String × Value) : Prop :=
  ∃ body, part = '"' :: body ∧
    ∀ rest, EndsNumber rest → readMember (readValue depth) (received body ++ rest) = .ok (m, rest)

theorem memberReadsAs (sp : Spacing) {depth : Nat} (key : String) {s : List Char} {v : Value}
    (h : ReadsAs depth s v) : MemberReadsAs depth (sp.member key s) (key, v) := by
  refine ⟨key.toList.flatMap escape ++ '"' :: ':' :: (sp.colon ++ s), by simp [Spacing.member, stringText], ?_⟩
  intro rest hrest
  have hkey := readString_flatMap key (received (':' :: (sp.colon ++ s)) ++ rest)
  have hvalue := h.append_left sp.colon_blank rest hrest
  have hcolon : skipSpace (received (':' :: (sp.colon ++ s)) ++ rest) =
      .char ':' :: (received (sp.colon ++ s) ++ rest) := rfl
  rw [received_append, received_cons, List.append_assoc, List.cons_append]
  exact readMember_of_value hkey hcolon hvalue

theorem skipSpace_part (sp : Spacing) (body : List Char) (rest : Encoded) :
    skipSpace (received (sp.before ++ '"' :: body) ++ rest) = .char '"' :: (received body ++ rest) := by
  rw [received_append, List.append_assoc, skipSpace_received sp.before_blank]
  rfl

/-- The members behind the first one are read up to the closing brace. -/
theorem readMembers_following (sp : Spacing) {depth : Nat} {parts : List (List Char)}
    {members : List (String × Value)} (h : List.Forall₂ (MemberReadsAs depth) parts members) {budget : Nat}
    (hbudget : parts.length < budget) (rest : Encoded) :
    readMembers (readValue depth) budget false (received (sp.following '\x7d' parts) ++ rest) =
      .ok (members, rest) := by
  obtain ⟨budget, rfl⟩ := Nat.exists_eq_succ_of_ne_zero (Nat.ne_zero_of_lt hbudget)
  induction h generalizing budget with
  | nil =>
      have hskip : skipSpace (received (sp.following '\x7d' []) ++ rest) = .char '\x7d' :: rest := by
        rw [Spacing.following, received_append, List.append_assoc, skipSpace_received sp.last_blank]
        rfl
      simp only [readMembers, hskip, if_true]
  | @cons part m parts members hpart _ ih =>
      obtain ⟨budget, rfl⟩ := Nat.exists_eq_succ_of_ne_zero (show budget ≠ 0 by simp at hbudget; omega)
      obtain ⟨body, rfl, hmember⟩ := hpart
      have hread := hmember _ (sp.endsNumber_following (.inr rfl) parts rest)
      rw [Spacing.following, received_cons, received_append, List.cons_append, List.append_assoc,
        readMembers_of_starts (.next rfl (skipSpace_part sp body _)) hread, ih budget (by simp at hbudget ⊢; omega)]
      rfl

/-- All members are read behind the opening brace, also those whose keys are repeated. -/
theorem readMembers_container (sp : Spacing) {depth : Nat} {parts : List (List Char)}
    {members : List (String × Value)} (h : List.Forall₂ (MemberReadsAs depth) parts members) (rest : Encoded) :
    ∃ inner, received (sp.container '\x7b' '\x7d' parts) ++ rest = .char '\x7b' :: inner ∧
      readMembers (readValue depth) (inner.length + 1) true inner = .ok (members, rest) := by
  cases h with
  | nil => exact ⟨_, rfl, rfl⟩
  | @cons part m parts members hpart hparts =>
      obtain ⟨body, rfl, hmember⟩ := hpart
      have hread := hmember _ (sp.endsNumber_following (.inr rfl) parts rest)
      refine ⟨received (sp.before ++ '"' :: body) ++ (received (sp.following '\x7d' parts) ++ rest), ?_, ?_⟩
      · rw [Spacing.container, received_cons, received_append, List.cons_append, List.append_assoc]
      · rw [readMembers_of_starts (.first (skipSpace_part sp body _)) hread, readMembers_following sp hparts]
        · rfl
        · have := sp.length_lt_following '\x7d' parts
          simp only [List.length_append, received, List.length_map]
          omega

/-- An object whose members are read back is read back, as those of its members that are left. -/
theorem readsAs_object (sp : Spacing) {depth : Nat} {parts : List (List Char)} {members : List (String × Value)}
    (h : List.Forall₂ (MemberReadsAs depth) parts members) :
    ReadsAs (depth + 1) (sp.container '\x7b' '\x7d' parts) (.object (membersOf members)) := by
  intro rest _
  have hopen : ∀ t, readValue (depth + 1) (.char '\x7b' :: t) =
      (readMembers (readValue depth) (t.length + 1) true t).bind fun p => .ok (.object (membersOf p.1), p.2) :=
    fun _ => rfl
  obtain ⟨inner, htext, hread⟩ := readMembers_container sp h rest
  rw [htext, hopen, hread]
  rfl

/-! ## The printers -/

/-- The blanks of the printer that writes one line: none. -/
def Spacing.compact : Spacing where
  before := []
  last := []
  colon := []
  before_blank := fun _ h => absurd h List.not_mem_nil
  last_blank := fun _ h => absurd h List.not_mem_nil
  colon_blank := fun _ h => absurd h List.not_mem_nil

theorem isSpace_newline (level : Nat) : ∀ c ∈ newline level, isSpace (.char c) = true := by
  intro c hc
  rcases List.mem_cons.1 hc with rfl | hc
  · rfl
  · rw [List.eq_of_mem_replicate hc]
    rfl

/-- The blanks of the printer that writes a part a line, at a level. -/
def Spacing.lines (level : Nat) : Spacing where
  before := newline (level + 1)
  last := newline level
  colon := [' ']
  before_blank := isSpace_newline (level + 1)
  last_blank := isSpace_newline level
  colon_blank := by simp [isSpace]

theorem separated_cons (sp : Spacing) (close : Char) (part : List Char) (parts : List (List Char)) :
    separated (',' :: sp.before) (part :: parts) ++ sp.last ++ [close] = part ++ sp.following close parts := by
  induction parts generalizing part with
  | nil => simp [separated, Spacing.following]
  | cons next rest ih =>
      rw [separated, List.append_assoc, List.append_assoc, List.append_assoc, ← List.append_assoc (separated _ _),
        ih next, Spacing.following]
      simp

theorem container_compact (first close : Char) (parts : List (List Char)) :
    Spacing.compact.container first close parts = first :: separated [','] parts ++ [close] := by
  cases parts with
  | nil => rfl
  | cons part parts =>
      have h := separated_cons .compact close part parts
      rw [Spacing.container, List.append_assoc, ← h]
      simp [Spacing.compact]

theorem container_lines (level : Nat) (first close : Char) (parts : List (List Char)) :
    (Spacing.lines level).container first close parts = block first close level parts := by
  cases parts with
  | nil => rfl
  | cons part parts =>
      have h := separated_cons (.lines level) close part parts
      rw [Spacing.container, List.append_assoc, ← h]
      simp [block, Spacing.lines]

theorem compactItems_eq (items : List Value) : compactItems items = items.map compactChars := by
  induction items with
  | nil => rfl
  | cons v rest ih => rw [compactItems, ih, List.map_cons]

theorem compactMembers_eq (members : List (String × Value)) :
    compactMembers members = members.map fun m => Spacing.compact.member m.1 (compactChars m.2) := by
  induction members with
  | nil => rfl
  | cons m rest ih => rw [compactMembers, ih, List.map_cons]; rfl

theorem prettyItems_eq (level : Nat) (items : List Value) :
    prettyItems level items = items.map (prettyChars level) := by
  induction items with
  | nil => rfl
  | cons v rest ih => rw [prettyItems, ih, List.map_cons]

theorem prettyMembers_eq (level n : Nat) (members : List (String × Value)) :
    prettyMembers level members = members.map fun m => (Spacing.lines n).member m.1 (prettyChars level m.2) := by
  induction members with
  | nil => rfl
  | cons m rest ih => rw [prettyMembers, ih, List.map_cons]; rfl

theorem readsAs_null (depth : Nat) : ReadsAs depth (scalarText .null) .null := by
  intro rest _
  exact readValue_of_startsScalar depth (by unfold StartsScalar; decide)

/-- Items that are read back one by one are read back together. -/
theorem forall₂_items {depth : Nat} {text : Value → List Char} {items : List Value}
    (h : ∀ v ∈ items, ReadsAs depth (text v) v) : List.Forall₂ (ReadsAs depth) (items.map text) items := by
  rw [List.forall₂_map_left_iff, List.forall₂_same]
  exact h

theorem forall₂_members (sp : Spacing) {depth : Nat} {text : Value → List Char} {members : List (String × Value)}
    (h : ∀ m ∈ members, ReadsAs depth (text m.2) m.2) :
    List.Forall₂ (MemberReadsAs depth) (members.map fun m => sp.member m.1 (text m.2)) members := by
  rw [List.forall₂_map_left_iff, List.forall₂_same]
  exact fun m hm => memberReadsAs sp m.1 (h m hm)

/-- What is written on one line is read back. -/
theorem readsAs_compactChars {depth : Nat} {v : Value} (hv : v.ExactWithin depth) :
    ReadsAs depth (compactChars v) v := by
  induction hv with
  | @null depth => exact readsAs_null depth
  | @scalar depth v h =>
      have htext : compactChars v = scalarText v := by cases h <;> rfl
      rw [htext]
      exact readsAs_scalarText h depth
  | @array depth items _ ih =>
      have h := readsAs_array .compact (forall₂_items ih)
      rwa [container_compact, ← compactItems_eq] at h
  | @object depth members hkeys _ ih =>
      have h := readsAs_object .compact (forall₂_members .compact ih)
      rwa [container_compact, ← compactMembers_eq, membersOf_of_ascending hkeys] at h

/-- What is written over several lines is read back, at whatever level it starts. -/
theorem readsAs_prettyChars {depth : Nat} {v : Value} (hv : v.ExactWithin depth) (level : Nat) :
    ReadsAs depth (prettyChars level v) v := by
  induction hv generalizing level with
  | @null depth => exact readsAs_null depth
  | @scalar depth v h =>
      have htext : prettyChars level v = scalarText v := by cases h <;> rfl
      rw [htext]
      exact readsAs_scalarText h depth
  | @array depth items _ ih =>
      have h := readsAs_array (.lines level) (forall₂_items fun v hv => ih v hv (level + 1))
      rwa [container_lines, ← prettyItems_eq] at h
  | @object depth members hkeys _ ih =>
      have h := readsAs_object (.lines level) (forall₂_members (.lines level) fun m hm => ih m hm (level + 1))
      rwa [container_lines, ← prettyMembers_eq, membersOf_of_ascending hkeys] at h

theorem read_compact_of_exactWithin {v : Value} (hv : v.ExactWithin depthLimit) :
    Value.read (.ofString v.compact) = .ok v :=
  read_of_readsAs (readsAs_compactChars hv)

theorem read_pretty_of_exactWithin {v : Value} (hv : v.ExactWithin depthLimit) :
    Value.read (.ofString v.pretty) = .ok v :=
  read_of_readsAs (readsAs_prettyChars hv 0)

end Probe.Json
