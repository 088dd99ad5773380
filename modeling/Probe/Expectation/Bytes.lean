import Probe.Expectation.Basic

/-!
# Directives by byte positions

An expectation may be read from the UTF-8 bytes of its text: by indexes that go up from byte to byte, and
by slices of the text that hold the names. Not every access is possible. An index may be out of range, and
so may a slice, which has to begin and to end between characters besides. The functions here say so where
that happens.
-/

namespace Probe

/-- An access to the bytes of a text that is not possible. -/
inductive Misplaced where
  | index (i : Nat)
  | slice (start stop : Nat)
  deriving DecidableEq, Repr

/-- The byte at an index. -/
def byteAt (raw : String) (i : Nat) : Except Misplaced UInt8 :=
  match raw.toByteArray[i]? with
  | some b => .ok b
  | none => .error (.index i)

/-- The part of a text between two byte indexes. -/
def sliceAt (raw : String) (start stop : Nat) : Except Misplaced String :=
  match raw.pos? ⟨start⟩, raw.pos? ⟨stop⟩ with
  | some first, some last =>
      match raw.slice? first last with
      | some part => .ok part.copy
      | none => .error (.slice start stop)
  | _, _ => .error (.slice start stop)

/-- A byte of a name: that of an ASCII letter, a digit or an underscore. -/
def isNameByte (b : UInt8) : Bool :=
  ('a'.toUInt8 ≤ b && b ≤ 'z'.toUInt8) || ('A'.toUInt8 ≤ b && b ≤ 'Z'.toUInt8) ||
    ('0'.toUInt8 ≤ b && b ≤ '9'.toUInt8) || b == '_'.toUInt8

/-- The number of bytes of a name from an index on. -/
def nameWidth (raw : String) (i : Nat) : Except Misplaced Nat :=
  if i < raw.utf8ByteSize then do
    let b ← byteAt raw i
    if isNameByte b then
      let width ← nameWidth raw (i + 1)
      return width + 1
    else return 0
  else return 0
termination_by raw.utf8ByteSize - i

/-- The name from an index on and its width, if a closing byte follows it. -/
def closedNameAt? (raw : String) (close : UInt8) (i : Nat) : Except Misplaced (Option (String × Nat)) := do
  let width ← nameWidth raw i
  if 0 < width ∧ raw.toByteArray[i + width]? = some close then
    let name ← sliceAt raw i (i + width)
    return some (name, width)
  else return none

/-- The name from an index on and its width. -/
def openNameAt? (raw : String) (i : Nat) : Except Misplaced (Option (String × Nat)) := do
  let width ← nameWidth raw i
  if 0 < width then
    let name ← sliceAt raw i (i + width)
    return some (name, width)
  else return none

/-- The directive that starts at an index, if it is one of a form not found yet: the directives found with
it, and the number of bytes behind the index that belong to it. -/
def Directives.extendAt? (raw : String) (found : Directives) (i : Nat) :
    Except Misplaced (Option (Directives × Nat)) := do
  let b ← byteAt raw i
  if b = '\x7b'.toUInt8 ∧ found.reference.isNone then
    let name? ← closedNameAt? raw '\x7d'.toUInt8 (i + 1)
    return name?.map fun (name, width) => ({ found with reference := some name }, width + 1)
  else if b = '['.toUInt8 ∧ found.tag.isNone then
    let name? ← closedNameAt? raw ']'.toUInt8 (i + 1)
    return name?.map fun (name, width) => ({ found with tag := some (.ofName name) }, width + 1)
  else if b = '>'.toUInt8 ∧ found.capture.isNone ∧ raw.toByteArray[i + 1]? = some '>'.toUInt8 then
    let name? ← openNameAt? raw (i + 2)
    return name?.map fun (name, width) => ({ found with capture := some name }, width + 1)
  else return none

/-- Reads directives from an index on. -/
def Directives.scanAt (raw : String) (found : Directives) (i : Nat) : Except Misplaced Directives :=
  if i < raw.utf8ByteSize then do
    match ← found.extendAt? raw i with
    | some (found, inside) => scanAt raw found (i + 1 + inside)
    | none => scanAt raw found (i + 1)
  else return found
termination_by raw.utf8ByteSize - i

/-- Reads an expectation in one pass over its bytes. -/
def Expectation.parseBytes (raw : String) : Except Misplaced Expectation := do
  let directives ← Directives.empty.scanAt raw 0
  return ⟨raw, directives⟩

end Probe
