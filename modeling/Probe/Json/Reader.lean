import Probe.Json.Error
import Probe.Json.Number
import Probe.Text.Encoded

/-!
# Reading JSON texts

A reader takes a text and gives what it read and the rest. A fault is noted with the number of bytes
left unread, from which `locate` finds its line and column. Containers may be nested 127 deep.
-/

namespace Probe.Json

open Probe.Text
open Probe.Decimal

/-- A fault, noted with the number of bytes after the place where it was noticed. -/
structure Stop where
  fault : Fault
  left : Nat
  deriving DecidableEq, Repr

/-- A fault noticed before anything of `rest` is read. -/
def stopBefore (fault : Fault) (rest : Encoded) : Stop :=
  ⟨fault, rest.size⟩

/-- A fault noticed at the first byte of `rest`, which counts as read. -/
def stopAt (fault : Fault) (rest : Encoded) : Stop :=
  ⟨fault, rest.size - 1⟩

/-- A blank of JSON. -/
def isSpace (p : Piece) : Bool :=
  p == .char ' ' || p == .char '\n' || p == .char '\t' || p == .char '\r'

/-- The text after the blanks in front. -/
def skipSpace (t : Encoded) : Encoded :=
  t.dropWhile isSpace

/-- Reads the rest of a word. -/
def readWord {α : Type} (result : α) : List Char → Encoded → Except Stop (α × Encoded)
  | [], t => .ok (result, t)
  | _ :: _, [] => .error ⟨.valueMissing, 0⟩
  | c :: word, p :: t =>
      if p = .char c then readWord result word t else .error (stopAt .wordExpected (p :: t))

/-- The value of a unit that is a digit in a base. -/
def digitOf? (base : Nat) (p : Piece) : Option Nat :=
  p.char?.bind (digitValue? base)

/-- Reads the digits in front. -/
def readDigits : Encoded → List Nat × Encoded
  | [] => ([], [])
  | p :: t =>
      match digitOf? 10 p with
      | some d =>
          let (ds, rest) := readDigits t
          (d :: ds, rest)
      | none => ([], p :: t)

/-- The result of a number that may be out of range, noticed before `rest`. -/
def inRange (n : Option Number) (rest : Encoded) : Except Stop (Number × Encoded) :=
  match n with
  | some n => .ok (n, rest)
  | none => .error (stopBefore .numberOutOfRange rest)

/-- The largest exponent that is counted. -/
def exponentLimit : Nat := Decimal.twoTo 31 - 1

/-- Reads the exponent after its `e`. An exponent past the limit makes a significand other than zero
overflow or vanish. -/
def readExponent (negative : Bool) (digits fraction : List Nat) (t : Encoded) :
    Except Stop (Number × Encoded) :=
  let (down, t) : Bool × Encoded :=
    match t with
    | .char '+' :: rest => (false, rest)
    | .char '-' :: rest => (true, rest)
    | rest => (false, rest)
  match readDigits t with
  | ([], []) => .error ⟨.valueMissing, 0⟩
  | ([], rest) => .error (stopAt .malformedNumber rest)
  | (ds, rest) =>
      let (n, taken) := absorb exponentLimit 0 ds
      if taken = ds.length then
        inRange (ofParts? negative digits fraction (if down then -(n : Int) else n)) rest
      else if (significandOf digits fraction).1 ≠ 0 ∧ ¬ down then
        .error ⟨.numberOutOfRange, rest.size + (ds.length - taken - 1)⟩
      else .ok (.binary ⟨negative, .zero⟩, rest)

/-- Reads what follows the digits before the point. -/
def readFraction (negative : Bool) (digits : List Nat) (t : Encoded) :
    Except Stop (Number × Encoded) :=
  match t with
  | .char '.' :: t =>
      match readDigits t with
      | ([], []) => .error ⟨.valueMissing, 0⟩
      | ([], rest) => .error (stopAt .malformedNumber rest)
      | (fraction, .char 'e' :: rest) => readExponent negative digits fraction rest
      | (fraction, .char 'E' :: rest) => readExponent negative digits fraction rest
      | (fraction, rest) => inRange (ofParts? negative digits fraction 0) rest
  | .char 'e' :: rest => readExponent negative digits [] rest
  | .char 'E' :: rest => readExponent negative digits [] rest
  | rest => inRange (ofInteger? negative digits) rest

/-- Reads a number after its sign. A leading zero stands alone. -/
def readNumber (negative : Bool) (t : Encoded) : Except Stop (Number × Encoded) :=
  match readDigits t with
  | ([], []) => .error ⟨.valueMissing, 0⟩
  | ([], rest) => .error (stopAt .malformedNumber rest)
  | (0 :: _ :: ds, rest) => .error ⟨.malformedNumber, rest.size + ds.length⟩
  | (digits, rest) => readFraction negative digits rest

/-- The number that four hexadecimal digits spell. -/
def readHex : Encoded → Except Stop (Nat × Encoded)
  | a :: b :: c :: d :: rest =>
      match [a, b, c, d].mapM (digitOf? 16) with
      | some ds => .ok (ofDigits 16 ds, rest)
      | none => .error ⟨.unknownEscape, Encoded.size (a :: b :: c :: d :: rest) - 4⟩
  | short => if Encoded.size short < 4 then .error ⟨.stringUnclosed, 0⟩
      else .error ⟨.unknownEscape, Encoded.size short - 4⟩

/-- Reads the second half of a surrogate pair after its first half `high`. -/
def readLow (high : Nat) (t : Encoded) : Except Stop (Char × Encoded) :=
  match t with
  | [] => .error ⟨.stringUnclosed, 0⟩
  | [.char '\\'] => .error ⟨.stringUnclosed, 0⟩
  | .char '\\' :: .char 'u' :: rest => do
      let (low, rest) ← readHex rest
      if 0xDC00 ≤ low ∧ low ≤ 0xDFFF then
        .ok (Char.ofNat ((high - 0xD800) * 0x400 + (low - 0xDC00) + 0x10000), rest)
      else .error (stopBefore .unpairedSurrogate rest)
  | .char '\\' :: rest => .error (stopAt .unpairedHigh rest)
  | rest => .error (stopAt .unpairedHigh rest)

/-- Reads a character by its number, in one or two groups of four digits. -/
def readUnicode (t : Encoded) : Except Stop (Char × Encoded) := do
  let (n, rest) ← readHex t
  if 0xDC00 ≤ n ∧ n ≤ 0xDFFF then .error (stopBefore .unpairedSurrogate rest)
  else if 0xD800 ≤ n ∧ n ≤ 0xDBFF then readLow n rest
  else .ok (Char.ofNat n, rest)

/-- Reads an escaped character after its backslash. -/
def readEscape : Encoded → Except Stop (Char × Encoded)
  | [] => .error ⟨.stringUnclosed, 0⟩
  | .char '"' :: t => .ok ('"', t)
  | .char '\\' :: t => .ok ('\\', t)
  | .char '/' :: t => .ok ('/', t)
  | .char 'b' :: t => .ok ('\x08', t)
  | .char 'f' :: t => .ok ('\x0c', t)
  | .char 'n' :: t => .ok ('\n', t)
  | .char 'r' :: t => .ok ('\r', t)
  | .char 't' :: t => .ok ('\t', t)
  | .char 'u' :: t => readUnicode t
  | t => .error (stopAt .unknownEscape t)

/-- Reads a string after its opening quote. When it is closed, a stray byte is reported as many bytes
before the end as there are from it on without escapes: `stray` counts these. The budget is the length of
the text, of which every round takes a unit. -/
def readChars : (budget : Nat) → (stray : Option Nat) → Encoded →
    Except Stop (List Char × Encoded)
  | 0, _, _ => .error ⟨.stringUnclosed, 0⟩
  | _ + 1, _, [] => .error ⟨.stringUnclosed, 0⟩
  | budget + 1, stray, p :: t =>
      let add (c : Char) (t : Encoded) : Except Stop (List Char × Encoded) := do
        let (cs, rest) ← readChars budget (stray.map (· + c.utf8Size)) t
        .ok (c :: cs, rest)
      match p with
      | .stray _ => readChars budget (some (stray.getD 0 + 1)) t
      | .char c =>
          if c = '"' then
            match stray with
            | some count => .error ⟨.notUnicode, Encoded.size t + count⟩
            | none => .ok ([], t)
          else if c = '\\' then do
            let (d, t) ← readEscape t
            add d t
          else if c.toNat < 0x20 then .error (stopBefore .controlCharacter t)
          else add c t

/-- Reads a string after its opening quote. -/
def readString (t : Encoded) : Except Stop (String × Encoded) := do
  let (cs, rest) ← readChars t.length none t
  .ok (String.ofList cs, rest)

/-- Reads the items of an array after its opening bracket or after an item. The budget is the length
of the text, of which every item takes a unit. -/
def readItems {α : Type} (item : Encoded → Except Stop (α × Encoded)) :
    (budget : Nat) → (first : Bool) → Encoded → Except Stop (List α × Encoded)
  | 0, _, _ => .error ⟨.arrayUnclosed, 0⟩
  | budget + 1, first, t =>
      let more (t : Encoded) : Except Stop (List α × Encoded) := do
        let (v, t) ← item t
        let (vs, t) ← readItems item budget false t
        .ok (v :: vs, t)
      match skipSpace t with
      | [] => .error ⟨.arrayUnclosed, 0⟩
      | p :: rest =>
          if p = .char ']' then .ok ([], rest)
          else if first then more (p :: rest)
          else if p = .char ',' then
            match skipSpace rest with
            | [] => .error ⟨.valueMissing, 0⟩
            | q :: rest =>
                if q = .char ']' then .error (stopAt .trailingComma (q :: rest))
                else more (q :: rest)
          else .error (stopAt .itemEndExpected (p :: rest))

/-- Reads a key after its opening quote, the colon and the value. -/
def readMember {α : Type} (value : Encoded → Except Stop (α × Encoded)) (t : Encoded) :
    Except Stop ((String × α) × Encoded) := do
  let (key, t) ← readString t
  match skipSpace t with
  | [] => .error ⟨.objectUnclosed, 0⟩
  | p :: rest =>
      if p = .char ':' then do
        let (v, rest) ← value rest
        .ok ((key, v), rest)
      else .error (stopAt .colonExpected (p :: rest))

/-- Reads the members of an object after its opening brace or after a member. The budget is the
length of the text, of which every member takes a unit. -/
def readMembers {α : Type} (value : Encoded → Except Stop (α × Encoded)) :
    (budget : Nat) → (first : Bool) → Encoded → Except Stop (List (String × α) × Encoded)
  | 0, _, _ => .error ⟨.objectUnclosed, 0⟩
  | budget + 1, first, t =>
      let more (t : Encoded) : Except Stop (List (String × α) × Encoded) := do
        let (m, t) ← readMember value t
        let (ms, t) ← readMembers value budget false t
        .ok (m :: ms, t)
      match skipSpace t with
      | [] => .error ⟨.objectUnclosed, 0⟩
      | p :: rest =>
          if p = .char '\x7d' then .ok ([], rest)
          else if first then
            if p = .char '"' then more rest else .error (stopAt .keyExpected (p :: rest))
          else if p = .char ',' then
            match skipSpace rest with
            | [] => .error ⟨.valueMissing, 0⟩
            | q :: rest =>
                if q = .char '"' then more rest
                else if q = .char '\x7d' then .error (stopAt .trailingComma (q :: rest))
                else .error (stopAt .keyExpected (q :: rest))
          else .error (stopAt .memberEndExpected (p :: rest))

/-- Reads a value that is neither an array nor an object. -/
def readScalar (t : Encoded) : Except Stop (Value × Encoded) :=
  match t with
  | [] => .error ⟨.valueMissing, 0⟩
  | .char 'n' :: rest => readWord .null ['u', 'l', 'l'] rest
  | .char 't' :: rest => readWord (.bool true) ['r', 'u', 'e'] rest
  | .char 'f' :: rest => readWord (.bool false) ['a', 'l', 's', 'e'] rest
  | .char '"' :: rest => do
      let (s, rest) ← readString rest
      .ok (.string s, rest)
  | .char '-' :: rest => do
      let (n, rest) ← readNumber true rest
      .ok (.number n, rest)
  | p :: rest =>
      if (digitOf? 10 p).isSome then do
        let (n, rest) ← readNumber false (p :: rest)
        .ok (.number n, rest)
      else .error (stopAt .valueExpected (p :: rest))

/-- Reads a value whose containers are nested at most `depth` deep. -/
def readValue : (depth : Nat) → Encoded → Except Stop (Value × Encoded)
  | depth, t =>
      match skipSpace t with
      | .char '[' :: rest =>
          match depth with
          | 0 => .error (stopBefore .tooDeep rest)
          | depth + 1 => do
              let (items, rest) ← readItems (readValue depth) (rest.length + 1) true rest
              .ok (.array items, rest)
      | .char '\x7b' :: rest =>
          match depth with
          | 0 => .error (stopBefore .tooDeep rest)
          | depth + 1 => do
              let (members, rest) ← readMembers (readValue depth) (rest.length + 1) true rest
              .ok (.object (membersOf members), rest)
      | t => readScalar t

/-- How deep containers may be nested. -/
def depthLimit : Nat := 127

/-- The line and column of a place with `left` bytes after it. -/
def locate (t : Encoded) (stop : Stop) : ReadError :=
  let read := t.bytes.take (t.size - stop.left)
  let column := (read.reverse.takeWhile (· != 10)).length
  ⟨stop.fault, read.count 10 + 1, column⟩

/-- Reads a text as one thing, with nothing but blanks after it. -/
def readAll {α : Type} (reader : Encoded → Except Stop (α × Encoded)) (t : Encoded) :
    Except Stop α := do
  let (v, rest) ← reader t
  match skipSpace rest with
  | [] => .ok v
  | p :: rest => .error (stopAt .trailingCharacters (p :: rest))

/-- Reads a whole text, and finds the place of a fault. -/
def readText {α : Type} (reader : Encoded → Except Stop (α × Encoded)) (t : Encoded) :
    Except ReadError α :=
  match readAll reader t with
  | .ok v => .ok v
  | .error stop => .error (locate t stop)

/-- The value that a text holds. -/
def Value.read (t : Encoded) : Except ReadError Value :=
  readText (readValue depthLimit) t

end Probe.Json
