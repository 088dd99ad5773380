import Probe.Text.Quoted
import Probe.Text.Segments

/-!
# Paths

A path is a text of segments between slashes. Joining and parents work on the text alone; order goes
by components, among which empty segments and inner dots do not count. Main statements:
`join_of_isAbsolute`, `components_empty`.
-/

namespace Probe

open Probe.Text

/-- A path. -/
structure Path where
  text : String
  deriving DecidableEq, Repr

namespace Path

/-- A part of a path. -/
inductive Component where
  | root
  | current
  | up
  | name (s : String)
  deriving DecidableEq, Repr

/-- The order of components: the root, the dot, the two dots, then names. -/
def Component.le : Component → Component → Bool
  | .root, _ => true
  | _, .root => false
  | .current, _ => true
  | _, .current => false
  | .up, _ => true
  | _, .up => false
  | .name a, .name b => decide (a ≤ b)

/-- The segments between slashes; an absolute path starts with an empty one. -/
def segments (p : Path) : List String :=
  (cut '/' p.text.toList).map String.ofList

/-- Whether a path starts at the root. -/
def isAbsolute (p : Path) : Bool :=
  p.text.toList.head? == some '/'

/-- Appends a path; an absolute one replaces what is before it. -/
def join (a b : Path) : Path :=
  if b.isAbsolute || a.text = "" then b
  else if a.text.toList.getLast? == some '/' then ⟨a.text ++ b.text⟩
  else ⟨a.text ++ "/" ++ b.text⟩

/-- A segment that does not count unless it comes first. -/
def isIdle (s : String) : Bool :=
  s == "" || s == "."

/-- The component of a segment that counts. -/
def componentOf (s : String) : Component :=
  if s = "." then .current else if s = ".." then .up else .name s

/-- The components of a path. -/
def components (p : Path) : List Component :=
  match p.segments with
  | [] => []
  | first :: rest =>
      let inner := (rest.filter fun s => !isIdle s).map componentOf
      if first = "" then (if p.isAbsolute then .root :: inner else inner)
      else componentOf first :: inner

/-- The name at the end of a path. -/
def fileName? (p : Path) : Option String :=
  match p.components.getLast? with
  | some (.name s) => some s
  | _ => none

/-- The segments after the first one without the idle ones at the end. -/
def dropIdle (segments : List String) : List String :=
  (segments.reverse.dropWhile isIdle).reverse

/-- The path without its last component; the root and the empty path have no parent. -/
def parent? (p : Path) : Option Path :=
  match p.segments with
  | [] => none
  | first :: rest =>
      let glue (kept : List String) : Path :=
        ⟨String.intercalate "/" (first :: kept)⟩
      match dropIdle rest with
      | [] => if first = "" then none else some ⟨""⟩
      | kept =>
          match dropIdle kept.dropLast with
          | [] => some (if first = "" then ⟨"/"⟩ else ⟨first⟩)
          | kept => some (glue kept)

/-- The form of a path in messages. -/
def quoted (p : Path) : String :=
  quote p.text

/-- Whether a list of components comes before another one or is equal to it. -/
def leComponents : List Component → List Component → Bool
  | [], _ => true
  | _ :: _, [] => false
  | a :: as, b :: bs => if a = b then leComponents as bs else a.le b

/-- The order of paths. -/
def le (a b : Path) : Bool :=
  leComponents a.components b.components

/-- An absolute path replaces what is before it. -/
theorem join_of_isAbsolute (a b : Path) (h : b.isAbsolute = true) : a.join b = b := by
  simp [join, h]

theorem components_empty : (Path.mk "").components = [] := by decide

end Path

end Probe
