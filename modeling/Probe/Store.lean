import Probe.Table

/-!
# Variables of a run

The variables that the cases of a run share, each with a text. A write replaces the value that was
there. Main statement: `get?_set`.
-/

namespace Probe

/-- The variables of a run and their values. -/
abbrev Store := Table String

namespace Store

/-- Gives a variable a value. -/
def set (s : Store) (name value : String) : Store :=
  s.insert name value

/-- Whether a variable is set. -/
def has (s : Store) (name : String) : Bool :=
  (s.get? name).isSome

@[simp] theorem get?_set (s : Store) (name other value : String) :
    (s.set name value).get? other = if other = name then some value else s.get? other :=
  Table.get?_insert s name other value

end Store

end Probe
