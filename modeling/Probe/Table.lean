/-!
# Tables

A table maps names to values and lists them in ascending order of their names. Two tables with the
same look-ups are equal. Main statements: `get?_insert`, `get?_erase`, `Table.ext_get?`.
-/

namespace Probe

namespace Entries

variable {α : Type}

/-- The value of a name in a list of entries. -/
def get? (name : String) : List (String × α) → Option α
  | [] => none
  | (k, v) :: rest => if k = name then some v else get? name rest

/-- Puts an entry at its place in the order of the names, in place of one of the same name. -/
def insert (name : String) (value : α) : List (String × α) → List (String × α)
  | [] => [(name, value)]
  | (k, v) :: rest =>
      if k = name then (name, value) :: rest
      else if name < k then (name, value) :: (k, v) :: rest
      else (k, v) :: insert name value rest

/-- Takes out the entry of a name. -/
def erase (name : String) : List (String × α) → List (String × α)
  | [] => []
  | (k, v) :: rest => if k = name then rest else (k, v) :: erase name rest

/-- Entries in strictly ascending order of their names. -/
def Ascending (entries : List (String × α)) : Prop :=
  entries.Pairwise fun a b => a.1 < b.1

theorem mem_of_get? {name : String} {value : α} {entries : List (String × α)}
    (h : get? name entries = some value) : (name, value) ∈ entries := by
  induction entries with
  | nil => simp [get?] at h
  | cons e rest ih =>
      obtain ⟨k, v⟩ := e
      by_cases hk : k = name
      · rw [get?, if_pos hk, Option.some.injEq] at h
        rw [hk, h]
        exact List.mem_cons_self
      · rw [get?, if_neg hk] at h
        exact List.mem_cons_of_mem _ (ih h)

/-- The value of an entry whose name no other one has. -/
theorem get?_of_mem {name : String} {value : α} {entries : List (String × α)}
    (hnodup : (entries.map Prod.fst).Nodup) (hmem : (name, value) ∈ entries) :
    get? name entries = some value := by
  induction entries with
  | nil => cases hmem
  | cons e rest ih =>
      obtain ⟨k, v⟩ := e
      obtain ⟨hk, hrest⟩ := List.nodup_cons.1 hnodup
      rcases List.mem_cons.1 hmem with heq | hmem
      · cases heq
        exact if_pos rfl
      · have hne : k ≠ name := by
          rintro rfl
          exact hk (List.mem_map.2 ⟨(k, value), hmem, rfl⟩)
        rw [get?, if_neg hne, ih hrest hmem]

/-- A name has no value exactly if it is not there. -/
theorem get?_eq_none_iff {name : String} {entries : List (String × α)} :
    get? name entries = none ↔ name ∉ entries.map Prod.fst := by
  induction entries with
  | nil => exact iff_of_true rfl List.not_mem_nil
  | cons e rest ih =>
      simp only [List.map_cons, List.mem_cons, not_or]
      by_cases hname : e.1 = name
      · rw [get?, if_pos hname]
        exact iff_of_false (Option.some_ne_none _) fun h => h.1 hname.symm
      · rw [get?, if_neg hname, ih]
        exact ⟨fun h => ⟨Ne.symm hname, h⟩, fun h => h.2⟩

/-- Names in ascending order are different. -/
theorem nodup_of_ascending {entries : List (String × α)} (h : Ascending entries) :
    (entries.map Prod.fst).Nodup := by
  refine List.pairwise_map.2 (List.Pairwise.imp (fun {a b} hlt heq => ?_) h)
  rw [heq] at hlt
  exact String.lt_irrefl b.1 hlt

/-- The names in front of an entry are smaller, and those behind it are greater. -/
theorem Ascending.split {before after : List (String × α)} {e : String × α}
    (h : Ascending (before ++ e :: after)) : (∀ b ∈ before, b.1 < e.1) ∧ ∀ a ∈ after, e.1 < a.1 := by
  obtain ⟨-, hafter, hbefore⟩ := List.pairwise_append.1 h
  exact ⟨fun b hb => hbefore b hb e List.mem_cons_self, (List.pairwise_cons.1 hafter).1⟩

theorem get?_insert (name other : String) (value : α) (entries : List (String × α)) :
    get? other (insert name value entries) = if other = name then some value else get? other entries := by
  induction entries with
  | nil =>
      by_cases h : other = name
      · subst h; simp [insert, get?]
      · simp [insert, get?, h, Ne.symm h]
  | cons e rest ih =>
      obtain ⟨k, v⟩ := e
      by_cases hk : k = name
      · subst hk
        by_cases h : other = k
        · subst h; simp [insert, get?]
        · simp [insert, get?, h, Ne.symm h]
      · by_cases hl : name < k
        · by_cases h : other = name
          · subst h; simp [insert, get?, hk, hl]
          · simp [insert, get?, hk, hl, h, Ne.symm h]
        · by_cases h : other = name
          · subst h; simp [insert, get?, hk, hl, ih]
          · simp [insert, get?, hk, hl, h, ih]

theorem mem_insert {e : String × α} {name : String} {value : α} {entries : List (String × α)}
    (h : e ∈ insert name value entries) : e = (name, value) ∨ e ∈ entries := by
  induction entries with
  | nil => simpa [insert] using h
  | cons f rest ih =>
      obtain ⟨k, v⟩ := f
      simp only [insert] at h
      split at h
      · rcases List.mem_cons.1 h with h | h
        · exact .inl h
        · exact .inr (List.mem_cons_of_mem _ h)
      · split at h
        · rcases List.mem_cons.1 h with h | h
          · exact .inl h
          · exact .inr h
        · rcases List.mem_cons.1 h with h | h
          · exact .inr (h ▸ List.mem_cons_self)
          · rcases ih h with h | h
            · exact .inl h
            · exact .inr (List.mem_cons_of_mem _ h)

/-- Inserting keeps the order. -/
theorem ascending_insert (name : String) (value : α) (entries : List (String × α))
    (h : Ascending entries) : Ascending (insert name value entries) := by
  induction entries with
  | nil => simp [insert, Ascending]
  | cons e rest ih =>
      obtain ⟨k, v⟩ := e
      obtain ⟨hk, hrest⟩ := List.pairwise_cons.1 h
      simp only [insert]
      split
      · next hkn => exact List.pairwise_cons.2 ⟨fun b hb => hkn ▸ hk b hb, hrest⟩
      · next hkn =>
          split
          · next hl =>
              refine List.pairwise_cons.2 ⟨fun b hb => ?_, h⟩
              rcases List.mem_cons.1 hb with rfl | hb
              · exact hl
              · exact String.lt_trans hl (hk b hb)
          · next hl =>
              refine List.pairwise_cons.2 ⟨fun b hb => ?_, ih hrest⟩
              rcases mem_insert hb with rfl | hb
              · exact Classical.byContradiction fun hlt =>
                  hkn (String.le_antisymm (String.not_lt.1 hl) (String.not_lt.1 hlt))
              · exact hk b hb

/-- An entry goes behind all others if its name is after theirs. -/
theorem insert_of_forall_lt (name : String) (value : α) (entries : List (String × α))
    (h : ∀ e ∈ entries, e.1 < name) : insert name value entries = entries ++ [(name, value)] := by
  induction entries with
  | nil => rfl
  | cons e rest ih =>
      obtain ⟨hk, hrest⟩ := List.forall_mem_cons.1 h
      have hne : e.1 ≠ name := fun heq => String.lt_irrefl name (heq ▸ hk)
      have hlt : ¬ name < e.1 := fun hlt => String.lt_irrefl name (String.lt_trans hlt hk)
      rw [insert, if_neg hne, if_neg hlt, ih hrest]
      rfl

theorem sublist_erase (name : String) (entries : List (String × α)) :
    (erase name entries).Sublist entries := by
  induction entries with
  | nil => simp [erase]
  | cons e rest ih =>
      obtain ⟨k, v⟩ := e
      simp only [erase]
      split
      · exact List.sublist_cons_self _ _
      · exact ih.cons_cons _

/-- Taking out keeps the order. -/
theorem ascending_erase (name : String) (entries : List (String × α)) (h : Ascending entries) :
    Ascending (erase name entries) :=
  h.sublist (sublist_erase name entries)

/-- A name below all others has no value. -/
theorem get?_eq_none (name : String) (entries : List (String × α))
    (h : ∀ e ∈ entries, name < e.1) : get? name entries = none := by
  induction entries with
  | nil => rfl
  | cons e rest ih =>
      obtain ⟨k, v⟩ := e
      have hk : k ≠ name := fun hk =>
        String.lt_irrefl name (by simpa [hk] using h (k, v) List.mem_cons_self)
      simp [get?, hk, ih fun e he => h e (List.mem_cons_of_mem _ he)]

theorem get?_erase (name other : String) (entries : List (String × α)) (h : Ascending entries) :
    get? other (erase name entries) = if other = name then none else get? other entries := by
  induction entries with
  | nil => simp [erase, get?]
  | cons e rest ih =>
      obtain ⟨k, v⟩ := e
      obtain ⟨hk, hrest⟩ := List.pairwise_cons.1 h
      by_cases hkn : k = name
      · subst hkn
        by_cases ho : other = k
        · subst ho; simp [erase, get?_eq_none _ _ hk]
        · simp [erase, get?, ho, Ne.symm ho]
      · by_cases ho : other = name
        · subst ho; simp [erase, get?, hkn, ih hrest]
        · simp [erase, get?, hkn, ho, ih hrest]

/-- Ascending entries are determined by their look-ups. -/
theorem eq_of_get? (a b : List (String × α)) (ha : Ascending a) (hb : Ascending b)
    (h : ∀ name, get? name a = get? name b) : a = b := by
  induction a generalizing b with
  | nil =>
      cases b with
      | nil => rfl
      | cons e rest => have := h e.1; simp [get?] at this
  | cons e rest ih =>
      obtain ⟨k, v⟩ := e
      obtain ⟨hk, hrest⟩ := List.pairwise_cons.1 ha
      cases b with
      | nil => have := h k; simp [get?] at this
      | cons f rest' =>
          obtain ⟨k', v'⟩ := f
          obtain ⟨hk', hrest'⟩ := List.pairwise_cons.1 hb
          have hkk : k = k' := by
            refine String.le_antisymm (String.not_lt.1 fun hlt => ?_) (String.not_lt.1 fun hlt => ?_)
            · have hn : get? k' ((k, v) :: rest) = none := by
                apply get?_eq_none
                intro e he
                rcases List.mem_cons.1 he with rfl | he
                · exact hlt
                · exact String.lt_trans hlt (hk e he)
              have := h k'; rw [hn] at this; simp [get?] at this
            · have hn : get? k ((k', v') :: rest') = none := by
                apply get?_eq_none
                intro e he
                rcases List.mem_cons.1 he with rfl | he
                · exact hlt
                · exact String.lt_trans hlt (hk' e he)
              have := h k; rw [hn] at this; simp [get?] at this
          subst hkk
          have hv : v = v' := by have := h k; simpa [get?] using this
          subst hv
          refine congrArg _ (ih rest' hrest hrest' fun name => ?_)
          by_cases hn : k = name
          · subst hn; rw [get?_eq_none _ _ hk, get?_eq_none _ _ hk']
          · have := h name; simpa [get?, hn] using this

end Entries

/-- A table from names to values. -/
structure Table (α : Type) where
  entries : List (String × α)
  ascending : Entries.Ascending entries

namespace Table

variable {α : Type}

/-- The table without entries. -/
def empty : Table α := ⟨[], List.Pairwise.nil⟩

instance : Inhabited (Table α) := ⟨empty⟩

instance : EmptyCollection (Table α) := ⟨empty⟩

instance [DecidableEq α] : DecidableEq (Table α) := fun a b =>
  if h : a.entries = b.entries then
    .isTrue (by cases a; cases b; cases h; rfl)
  else .isFalse fun e => h (e ▸ rfl)

/-- The value of a name. -/
def get? (t : Table α) (name : String) : Option α :=
  Entries.get? name t.entries

/-- Gives a name a value, in place of any it had. -/
def insert (t : Table α) (name : String) (value : α) : Table α :=
  ⟨Entries.insert name value t.entries, Entries.ascending_insert name value _ t.ascending⟩

/-- Takes a name out. -/
def erase (t : Table α) (name : String) : Table α :=
  ⟨Entries.erase name t.entries, Entries.ascending_erase name _ t.ascending⟩

/-- Gives names values one after the other. -/
def insertAll (t : Table α) (entries : List (String × α)) : Table α :=
  entries.foldl (fun t (name, value) => t.insert name value) t

/-- The table of a list of entries, of which the last one of each name counts. -/
def ofList (entries : List (String × α)) : Table α :=
  empty.insertAll entries

/-- The names in ascending order. -/
def names (t : Table α) : List String :=
  t.entries.map Prod.fst

/-- The number of entries. -/
def size (t : Table α) : Nat :=
  t.entries.length

/-- A table without entries. -/
def isEmpty (t : Table α) : Bool :=
  t.entries.isEmpty

@[simp] theorem get?_empty (name : String) : (empty : Table α).get? name = none := rfl

@[simp] theorem get?_insert (t : Table α) (name other : String) (value : α) :
    (t.insert name value).get? other = if other = name then some value else t.get? other :=
  Entries.get?_insert name other value t.entries

@[simp] theorem get?_erase (t : Table α) (name other : String) :
    (t.erase name).get? other = if other = name then none else t.get? other :=
  Entries.get?_erase name other t.entries t.ascending

/-- What a name has is listed beside it. -/
theorem get?_eq_some_iff {t : Table α} {name : String} {value : α} :
    t.get? name = some value ↔ (name, value) ∈ t.entries :=
  ⟨Entries.mem_of_get?, Entries.get?_of_mem (Entries.nodup_of_ascending t.ascending)⟩

/-- Tables with the same look-ups are equal. -/
theorem ext_get? (a b : Table α) (h : ∀ name, a.get? name = b.get? name) : a = b := by
  obtain ⟨ea, ha⟩ := a
  obtain ⟨eb, hb⟩ := b
  obtain rfl : ea = eb := Entries.eq_of_get? ea eb ha hb h
  rfl

end Table

end Probe
