/-!
# Places in a YAML text

A cursor stands before the rest of a text and knows its line and column. Main statements:
`length_skipBreak?`, `length_skipWhile`.
-/

namespace Probe.Yaml

/-- A character that a YAML text may hold. -/
def isAllowed (c : Char) : Bool :=
  let n := c.toNat
  n == 9 || n == 10 || n == 13 || (0x20 ≤ n && n ≤ 0x7E) || n == 0x85 || (0xA0 ≤ n && n ≤ 0xD7FF) ||
    (0xE000 ≤ n && n ≤ 0xFFFD) || 0x10000 ≤ n

/-- A space or a tab. -/
def isWhite (c : Char) : Bool :=
  c == ' ' || c == '\t'

/-- A character that ends a line. -/
def isBreak (c : Char) : Bool :=
  c == '\n' || c == '\r' || c == '\u0085' || c == '\u2028' || c == '\u2029'

/-- A character of a word: an ASCII letter or digit, an underscore or a dash. -/
def isWordChar (c : Char) : Bool :=
  c.isAlphanum || c == '_' || c == '-'

/-- Whether a text starts with a character that separates words, or is at its end. -/
def atGap : List Char → Bool
  | [] => true
  | c :: _ => isWhite c || isBreak c

/-- Whether a text is at the end of a line or of the text. -/
def atLineEnd : List Char → Bool
  | [] => true
  | c :: _ => isBreak c

/-- Whether a text starts with the character `c`. -/
def startsWith (c : Char) : List Char → Bool
  | [] => false
  | d :: _ => d == c

/-- The number of bytes of a text. -/
def byteCount : List Char → Nat
  | [] => 0
  | c :: rest => c.utf8Size + byteCount rest

/-- A place in a text: what is left of it, how many bytes and lines are behind, and how many characters
of its line. -/
structure Cursor where
  rest : List Char
  offset : Nat
  line : Nat
  column : Nat

namespace Cursor

/-- The start of a text. -/
def start (text : List Char) : Cursor := ⟨text, 0, 0, 0⟩

/-- The place after one character that is no line break. -/
def skip (c : Cursor) : Cursor :=
  { c with
    rest := c.rest.drop 1
    offset := c.offset + byteCount (c.rest.take 1)
    column := c.column + 1 }

/-- The place after some characters that are no line breaks. -/
def skipMany (c : Cursor) (n : Nat) : Cursor :=
  { c with
    rest := c.rest.drop n
    offset := c.offset + byteCount (c.rest.take n)
    column := c.column + n }

/-- The place after the leading characters of a class that holds no line breaks. -/
def skipWhile (c : Cursor) (p : Char → Bool) : Cursor :=
  c.skipMany (c.rest.takeWhile p).length

/-- The leading characters of a class that holds no line breaks, and the place after them. -/
def takeWhile (c : Cursor) (p : Char → Bool) : List Char × Cursor :=
  let word := c.rest.takeWhile p
  (word, c.skipMany word.length)

/-- The text that a line break stands for, and the place after it. All breaks but the Unicode line and
paragraph separators stand for a line feed. -/
def skipBreak? (c : Cursor) : Option (List Char × Cursor) :=
  let next (n : Nat) : Cursor :=
    { rest := c.rest.drop n
      offset := c.offset + byteCount (c.rest.take n)
      line := c.line + 1
      column := 0 }
  match c.rest with
  | '\r' :: '\n' :: _ => some (['\n'], next 2)
  | d :: _ =>
      if isBreak d then
        some (if d == '\u2028' || d == '\u2029' then [d] else ['\n'], next 1)
      else none
  | [] => none

/-- The place after a line break, if one is there. -/
def skipBreak (c : Cursor) : Cursor :=
  match c.skipBreak? with
  | some (_, c) => c
  | none => c

/-- The place at the end of the line. -/
def skipLine (c : Cursor) : Cursor :=
  c.skipWhile fun d => !isBreak d

/-- The place after spaces, tabs and a comment. -/
def skipRemark (c : Cursor) : Cursor :=
  let c := c.skipWhile isWhite
  if startsWith '#' c.rest then c.skipLine else c

/-- Whether a line starts with three copies of `mark` and then a gap. -/
def atMark (c : Cursor) (mark : Char) : Bool :=
  c.column == 0 && c.rest.take 3 == [mark, mark, mark] && atGap (c.rest.drop 3)

/-- Whether a marker of the start or the end of a document is here. -/
def atDocumentMark (c : Cursor) : Bool :=
  c.atMark '-' || c.atMark '.'

/-- A line break takes up at least one character. -/
theorem length_skipBreak? (c d : Cursor) (s : List Char) (h : c.skipBreak? = some (s, d)) :
    d.rest.length < c.rest.length := by
  unfold skipBreak? at h
  split at h
  · next tail hc =>
      cases h
      simp only [hc, List.drop_succ_cons, List.drop_zero, List.length_cons]
      omega
  · next x tail hn hc =>
      split at h
      · cases h; simp [hc]
      · cases h
  · cases h

/-- Skipping never goes back. -/
theorem length_skipWhile (c : Cursor) (p : Char → Bool) :
    (c.skipWhile p).rest.length ≤ c.rest.length := by
  simp [skipWhile, skipMany]

end Cursor

end Probe.Yaml
