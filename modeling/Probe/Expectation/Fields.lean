import Probe.Expectation.Basic
import Probe.Json.Printer

/-!
# Fields

Field names with their expectations, in the order in which the names were first given, and the
validation of one observed field. Main statement: `get?_insert`.
-/

namespace Probe

/-- Field names with their expectations, each name once. -/
structure FieldMap where
  entries : List (String × Expectation)
  deriving DecidableEq, Repr

namespace FieldMap

/-- No fields. -/
def empty : FieldMap := ⟨[]⟩

instance : Inhabited FieldMap := ⟨empty⟩

/-- Replaces the expectation of a name in place, or appends it. -/
def put (name : String) (e : Expectation) : List (String × Expectation) → List (String × Expectation)
  | [] => [(name, e)]
  | (n, f) :: rest => if n = name then (name, e) :: rest else (n, f) :: put name e rest

/-- Gives a name an expectation; a name that is there keeps its place. -/
def insert (fields : FieldMap) (name : String) (e : Expectation) : FieldMap :=
  ⟨put name e fields.entries⟩

/-- The fields given, one after the other. -/
def ofList (entries : List (String × Expectation)) : FieldMap :=
  entries.foldl (fun fields (name, e) => fields.insert name e) empty

/-- The expectation of a name. -/
def get? (fields : FieldMap) (name : String) : Option Expectation :=
  Entries.get? name fields.entries

/-- The names in order. -/
def names (fields : FieldMap) : List String :=
  fields.entries.map Prod.fst

/-- The number of fields. -/
def size (fields : FieldMap) : Nat :=
  fields.entries.length

/-- No fields at all. -/
def isEmpty (fields : FieldMap) : Bool :=
  fields.entries.isEmpty

theorem get?_put (name other : String) (e : Expectation) (entries : List (String × Expectation)) :
    Entries.get? other (put name e entries) =
      if other = name then some e else Entries.get? other entries := by
  induction entries with
  | nil =>
      by_cases h : other = name
      · subst h; simp [put, Entries.get?]
      · simp [put, Entries.get?, h, Ne.symm h]
  | cons f rest ih =>
      obtain ⟨n, f⟩ := f
      by_cases hn : n = name
      · subst hn
        by_cases h : other = n
        · subst h; simp [put, Entries.get?]
        · simp [put, Entries.get?, h, Ne.symm h]
      · by_cases h : other = name
        · subst h; simp [put, Entries.get?, hn, ih]
        · simp [put, Entries.get?, hn, h, ih]

/-- The expectation given last is found, and the others are left alone. -/
@[simp] theorem get?_insert (fields : FieldMap) (name other : String) (e : Expectation) :
    (fields.insert name e).get? other = if other = name then some e else fields.get? other :=
  get?_put name other e fields.entries

end FieldMap

namespace Expectation

/-- Validates an observed value. It is accepted when the type tag passes, or when it is captured, or
when its text is the resolved expectation; what is accepted is captured. -/
def validate (e : Expectation) (observed : Json.Value) (store : Store) : Bool × Store :=
  let text := observed.text
  if e.typeCheck text = .pass then (true, (e.captureInto text store).2)
  else
    let (check, captured) := e.captureInto text store
    if check = .pass ∨ text = e.resolve captured then (true, (e.captureInto text captured).2)
    else (false, captured)

end Expectation

end Probe
