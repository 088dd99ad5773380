import Probe.Shape

/-!
# Faults of JSON texts

What can be wrong with a JSON text, and where it was noticed: a line, and the number of bytes read
on it. A text that is JSON may still hold another kind of thing than the one it is read as.
-/

namespace Probe.Json

/-- What is wrong with a JSON text. -/
inductive Fault where
  | valueMissing
  | stringUnclosed
  | arrayUnclosed
  | objectUnclosed
  | valueExpected
  | wordExpected
  | colonExpected
  | itemEndExpected
  | memberEndExpected
  | keyExpected
  | trailingComma
  | trailingCharacters
  | malformedNumber
  | numberOutOfRange
  | unknownEscape
  | unpairedHigh
  | unpairedSurrogate
  | controlCharacter
  | notUnicode
  | tooDeep
  | mismatch (m : Mismatch)
  deriving DecidableEq, Repr

/-- The wording of a fault. -/
def Fault.message : Fault → String
  | valueMissing => "EOF while parsing a value"
  | stringUnclosed => "EOF while parsing a string"
  | arrayUnclosed => "EOF while parsing a list"
  | objectUnclosed => "EOF while parsing an object"
  | valueExpected => "expected value"
  | wordExpected => "expected ident"
  | colonExpected => "expected `:`"
  | itemEndExpected => "expected `,` or `]`"
  | memberEndExpected => "expected `,` or `\x7d`"
  | keyExpected => "key must be a string"
  | trailingComma => "trailing comma"
  | trailingCharacters => "trailing characters"
  | malformedNumber => "invalid number"
  | numberOutOfRange => "number out of range"
  | unknownEscape => "invalid escape"
  | unpairedHigh => "unexpected end of hex escape"
  | unpairedSurrogate => "lone leading surrogate in hex escape"
  | controlCharacter => "control character (\\u0000-\\u001F) found while parsing a string"
  | notUnicode => "invalid unicode code point"
  | tooDeep => "recursion limit exceeded"
  | mismatch m => m.message

/-- A fault and its place. -/
structure ReadError where
  fault : Fault
  line : Nat
  column : Nat
  deriving DecidableEq, Repr

/-- The wording of a fault, with its place unless it is a mismatch. -/
def ReadError.message (e : ReadError) : String :=
  match e.fault with
  | .mismatch m => m.message
  | fault => fault.message ++ " at line " ++ toString e.line ++ " column " ++ toString e.column

end Probe.Json
