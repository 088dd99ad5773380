import Probe.Expectation.TypeTag
import Probe.Store

/-!
# Expectations

An expectation is a text that may carry three directives, in any order: `{NAME}` refers to a
variable, `[kind]` asks for a kind of text, and `>>NAME` captures what is observed into a variable. Of
each directive the first occurrence counts. Reading never fails: a text without directives stands for
itself.
-/

namespace Probe

open Probe.Text

/-- A character of a name: an ASCII letter, a digit or an underscore. -/
def isNameChar (c : Char) : Bool :=
  isLetterOrDigit c || c == '_'

theorem isNameChar_iff {c : Char} : isNameChar c = true ↔ c.isAlphanum = true ∨ c = '_' := by
  rw [isNameChar, isLetterOrDigit_eq, Bool.or_eq_true, beq_iff_eq]

/-- The directives of an expectation. -/
structure Directives where
  reference : Option String
  tag : Option TypeTag
  capture : Option String
  deriving DecidableEq, Repr

namespace Directives

/-- No directive. -/
def empty : Directives := ⟨none, none, none⟩

end Directives

/-- The name in front of a text, if a closing character follows it. -/
def closedName? (close : Char) (s : List Char) : Option (List Char) :=
  let name := s.takeWhile isNameChar
  if !name.isEmpty && (s.dropWhile isNameChar).head? == some close then some name else none

/-- The name in front of a text. -/
def openName? (s : List Char) : Option (List Char) :=
  let name := s.takeWhile isNameChar
  if name.isEmpty then none else some name

/-- The directive that starts with the character `c` before `rest`, if it is one of a form not found
yet: the directives found with it, and the number of characters of `rest` that belong to it. -/
def Directives.extend? (found : Directives) (c : Char) (rest : List Char) :
    Option (Directives × Nat) :=
  if c = '\x7b' ∧ found.reference.isNone then
    (closedName? '\x7d' rest).map fun name =>
      ({ found with reference := some (String.ofList name) }, name.length + 1)
  else if c = '[' ∧ found.tag.isNone then
    (closedName? ']' rest).map fun name =>
      ({ found with tag := some (.ofName (String.ofList name)) }, name.length + 1)
  else if c = '>' ∧ found.capture.isNone then
    match rest with
    | '>' :: rest =>
        (openName? rest).map fun name =>
          ({ found with capture := some (String.ofList name) }, name.length + 1)
    | _ => none
  else none

/-- Reads directives from left to right. The first `inside` characters belong to a directive that has
been read. -/
def Directives.scan (found : Directives) : (inside : Nat) → List Char → Directives
  | _, [] => found
  | inside + 1, _ :: rest => scan found inside rest
  | 0, c :: rest =>
      match found.extend? c rest with
      | some (found, inside) => scan found inside rest
      | none => scan found 0 rest

/-- A text with its directives. -/
structure Expectation where
  raw : String
  directives : Directives
  deriving DecidableEq, Repr

/-- What comes of applying a directive to what is observed. -/
inductive Check where
  | pass
  | fail
  | notApplicable
  deriving DecidableEq, Repr

namespace Expectation

/-- Reads an expectation in one pass. -/
def parse (raw : String) : Expectation :=
  ⟨raw, Directives.empty.scan 0 raw.toList⟩

/-- The variable referred to. -/
def reference (e : Expectation) : Option String := e.directives.reference

/-- The kind of text asked for. -/
def tag (e : Expectation) : Option TypeTag := e.directives.tag

/-- The variable that captures what is observed. -/
def capture (e : Expectation) : Option String := e.directives.capture

/-- An expectation without directives. -/
def isLiteral (e : Expectation) : Bool :=
  e.directives == Directives.empty

/-- The value of the variable referred to, if it is set, and the text as written if not. -/
def resolve (e : Expectation) (store : Store) : String :=
  ((e.reference.bind store.get?).getD e.raw)

/-- Checks what is observed against the type tag. -/
def typeCheck (e : Expectation) (observed : String) : Check :=
  match e.tag with
  | none => .notApplicable
  | some tag => if tag.accepts observed then .pass else .fail

/-- Captures what is observed; an empty text is never captured. -/
def captureInto (e : Expectation) (observed : String) (store : Store) : Check × Store :=
  match e.capture with
  | none => (.notApplicable, store)
  | some name =>
      if observed = "" then (.fail, store) else (.pass, store.set name observed)

/-- The text as written is kept. -/
theorem raw_parse (raw : String) : (parse raw).raw = raw := rfl

end Expectation

end Probe
