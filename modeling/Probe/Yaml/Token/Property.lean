import Probe.Text.Encoded
import Probe.Yaml.Token.Quoted
import Probe.Yaml.Token

/-!
# Anchors, tags and directives

An anchor or an alias is a word that a gap or punctuation follows. A tag is written in full between
angle brackets, or as a handle and a suffix. A directive stands on a line of its own.
-/

namespace Probe.Yaml

namespace Property

/-- Whether an anchor may end before the rest of a text. -/
def endsAnchor (rest : List Char) : Bool :=
  atGap rest || "?:,]\x7d%@`".toList.any fun c => startsWith c rest

/-- A character of a tag. Between angle brackets and in directives more are allowed. -/
def isTagChar (wide : Bool) (c : Char) : Bool :=
  isWordChar c || ";/?:@&=+$.!~*'()%".toList.contains c || (wide && ",[]".toList.contains c)

/-- The number of bytes of a character that starts with the byte `n`. -/
def encodedWidth? (n : Nat) : Option Nat :=
  if n < 0x80 then some 1
  else if n < 0xC0 then none
  else if n < 0xE0 then some 2
  else if n < 0xF0 then some 3
  else if n < 0xF8 then some 4
  else none

/-- Reads `n` bytes that are written as a percent sign and two hexadecimal digits each. -/
def escapedBytes? : (n : Nat) → List Char → Option (List UInt8 × List Char)
  | 0, s => some ([], s)
  | n + 1, '%' :: a :: b :: s => do
      let v ← Decimal.natural? 16 [a, b]
      let (bytes, s) ← escapedBytes? n s
      some (UInt8.ofNat v :: bytes, s)
  | _ + 1, _ => none

/-- The bytes that are escaped in front of a text: as many as the first one announces, of which the
others are continuation bytes. They need not be those of a character. -/
def escaped? (s : List Char) : Option (Tag × List Char) := do
  let (first, _) ← escapedBytes? 1 s
  let width ← encodedWidth? (first.head?.getD 0).toNat
  let (bytes, rest) ← escapedBytes? width s
  if (bytes.drop 1).all fun b => 0x80 ≤ b.toNat && b.toNat < 0xC0 then
    some (Text.Encoded.ofBytes bytes, rest)
  else none

/-- Reads the characters of a tag with its escapes: the text and the number of characters read. -/
def tagText? (wide : Bool) : (fuel : Nat) → List Char → Option (Tag × Nat)
  | 0, _ => none
  | fuel + 1, s =>
      match s with
      | [] => some ([], 0)
      | c :: rest =>
          if !isTagChar wide c then some ([], 0)
          else if c = '%' then do
            let (pieces, left) ← escaped? s
            let (text, n) ← tagText? wide fuel left
            some (pieces ++ text, n + (s.length - left.length))
          else do
            let (text, n) ← tagText? wide fuel rest
            some (.char c :: text, n + 1)

/-- A text of tag characters at a place. -/
def tagTextAt? (wide : Bool) (c : Cursor) : Option (Tag × Cursor) := do
  let (text, n) ← tagText? wide (c.rest.length + 1) c.rest
  some (text, c.skipMany n)

/-- What counts of a text of tag characters: an escaped null character ends it. -/
def untilNull (text : Tag) : Tag :=
  text.takeWhile (· != .char '\x00')

/-- A handle: an exclamation mark, a word, and a second mark if it is there. -/
def handle? (c : Cursor) : Option (List Char × Cursor) :=
  if startsWith '!' c.rest then
    let (word, c) := c.skip.takeWhile isWordChar
    if startsWith '!' c.rest then some ('!' :: word ++ ['!'], c.skip) else some ('!' :: word, c)
  else none

/-- Whether a handle has two marks. -/
def isClosed (handle : List Char) : Bool :=
  1 < handle.length && handle.getLast? == some '!'

/-- A number of up to nine digits. -/
def versionNumber? (c : Cursor) : Option (Nat × Cursor) := do
  let (digits, c) := c.takeWhile Decimal.isDigit
  if 9 < digits.length then none
  else
    let n ← Decimal.natural? 10 digits
    some (n, c)

end Property

open Property

/-- Reads the name of an anchor or an alias. -/
def Cursor.anchor? (c : Cursor) : Option (String × Cursor) :=
  let (name, c) := c.takeWhile isWordChar
  if !name.isEmpty && endsAnchor c.rest then some (String.ofList name, c) else none

/-- Reads a tag. A lone exclamation mark is a suffix without a handle. -/
def Cursor.tag? (c : Cursor) (flow : Bool) : Option (TagToken × Cursor) := do
  let (handle, suffix, c) ←
    if startsWith '<' (c.rest.drop 1) then do
      let (suffix, c) ← tagTextAt? true (c.skipMany 2)
      if !suffix.isEmpty && startsWith '>' c.rest then some ([], untilNull suffix, c.skip) else none
    else do
      let (handle, c) ← handle? c
      let (suffix, c) ← tagTextAt? false c
      if isClosed handle then
        if suffix.isEmpty then none else some (handle, untilNull suffix, c)
      else
        match untilNull ((handle.drop 1).map Text.Piece.char ++ suffix) with
        | [] => some ([], [.char '!'], c)
        | suffix => some (['!'], suffix, c)
  if atGap c.rest || (flow && startsWith ',' c.rest) then
    some (⟨String.ofList handle, suffix⟩, c)
  else none

/-- Reads the version in a directive. -/
def Cursor.version? (c : Cursor) : Option (Token × Cursor) := do
  let (major, c) ← versionNumber? (c.skipWhile isWhite)
  if startsWith '.' c.rest then
    let (minor, c) ← versionNumber? c.skip
    some (.version major minor, c)
  else none

/-- Reads the handle and the text it stands for in a directive. -/
def Cursor.tagHandle? (c : Cursor) : Option (Token × Cursor) := do
  let (handle, c) ← handle? (c.skipWhile isWhite)
  if isClosed handle || handle == ['!'] then
    if (c.rest.head?.map isWhite).getD false then
      let (lead, c) ← tagTextAt? true (c.skipWhile isWhite)
      if !lead.isEmpty && atGap c.rest then
        some (.tagHandle (String.ofList handle) (untilNull lead), c)
      else none
    else none
  else none

/-- Reads a directive after its percent sign, and the rest of its line. -/
def Cursor.directive? (c : Cursor) : Option (Token × Cursor) := do
  let (name, c) := c.takeWhile isWordChar
  let (token, c) ←
    if !atGap c.rest then none
    else if name = "YAML".toList then c.version?
    else if name = "TAG".toList then c.tagHandle?
    else none
  let c := c.skipRemark
  if atLineEnd c.rest then some (token, c.skipBreak) else none

end Probe.Yaml
