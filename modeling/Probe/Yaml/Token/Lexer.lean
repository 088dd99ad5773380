import Probe.Yaml.Token.Block
import Probe.Yaml.Token.Plain
import Probe.Yaml.Token.Property

/-!
# Lexing YAML

Tokens are read from left to right. A key need not be marked as one: every token that may start a key
is remembered until a colon follows on its line, and only then the token `key` is put in front of it.
Tokens for the start and the end of block collections follow from the columns.
-/

namespace Probe.Yaml

/-- A token that turns out to be the start of a key if a colon follows it. -/
structure KeyCandidate where
  /-- Whether anything but a key is an error here. -/
  required : Bool
  /-- The number of tokens before it. -/
  number : Nat
  offset : Nat
  line : Nat
  column : Nat

/-- The state between two tokens. -/
structure Lexer where
  cursor : Cursor
  /-- The tokens so far, the last one first. -/
  tokens : List Token
  count : Nat
  /-- The columns of the open block collections, the innermost first. -/
  indents : List Nat
  /-- Whether a key may start here without a mark. -/
  keyAllowed : Bool
  candidate : Option KeyCandidate
  /-- The candidates around the open flow collections, the innermost first. -/
  outer : List (Option KeyCandidate)

namespace Lexer

/-- The state at the start of a text. -/
def start (text : List Char) : Lexer :=
  { cursor := .start text
    tokens := []
    count := 0
    indents := []
    keyAllowed := true
    candidate := none
    outer := [] }

/-- Whether a flow collection is open. -/
def inFlow (l : Lexer) : Bool := !l.outer.isEmpty

/-- The column that the lines of a scalar in a block have to reach. -/
def innerColumn (l : Lexer) : Nat :=
  match l.indents with
  | [] => 0
  | n :: _ => n + 1

/-- Adds a token. -/
def emit (l : Lexer) (t : Token) : Lexer :=
  { l with tokens := t :: l.tokens, count := l.count + 1 }

/-- Puts a token behind the first `number` ones. -/
def insertAt (l : Lexer) (number : Nat) (t : Token) : Lexer :=
  let later := l.count - number
  { l with tokens := l.tokens.take later ++ t :: l.tokens.drop later, count := l.count + 1 }

/-- Goes to a place and adds a token. -/
def emitAt (l : Lexer) (c : Cursor) (t : Token) : Lexer :=
  { l with cursor := c }.emit t

/-- Opens a block collection at a column that lies deeper than the open ones; its first token is put
behind the first `number` ones. -/
def indent (l : Lexer) (column number : Nat) (t : Token) : Lexer :=
  if l.inFlow || !(l.indents.head?.all (· < column)) then l
  else { l.insertAt number t with indents := column :: l.indents }

/-- Closes the block collections that lie deeper than a column. -/
def dedentTo (column : Nat) (l : Lexer) : Lexer :=
  if l.inFlow then l
  else
    let closed := (l.indents.takeWhile (column < ·)).length
    { l with
      indents := l.indents.drop closed
      tokens := List.replicate closed .blockEnd ++ l.tokens
      count := l.count + closed }

/-- Closes all block collections. -/
def dedentAll (l : Lexer) : Lexer :=
  if l.inFlow then l
  else
    { l with
      indents := []
      tokens := l.indents.map (fun _ => Token.blockEnd) ++ l.tokens
      count := l.count + l.indents.length }

/-- Whether a candidate can no longer be a key: a key stays on one line and has 1024 bytes
at most. -/
def isStale (l : Lexer) (k : KeyCandidate) : Bool :=
  k.line < l.cursor.line || k.offset + 1024 < l.cursor.offset

/-- Forgets stale candidates; a stale one that is required is an error. -/
def dropStale? (l : Lexer) : Option Lexer :=
  let stale (k : Option KeyCandidate) : Bool := (k.map l.isStale).getD false
  let all := l.candidate :: l.outer
  if all.any fun k => stale k && ((k.map KeyCandidate.required).getD false) then none
  else
    let keep (k : Option KeyCandidate) : Option KeyCandidate := if stale k then none else k
    some { l with candidate := keep l.candidate, outer := l.outer.map keep }

/-- Forgets the candidate at this level; a required one is an error. -/
def dropCandidate? (l : Lexer) : Option Lexer :=
  if (l.candidate.map KeyCandidate.required).getD false then none else some { l with candidate := none }

/-- Remembers the next token as a candidate, if a key may start here. -/
def remember? (l : Lexer) : Option Lexer :=
  if l.keyAllowed then do
    let l ← l.dropCandidate?
    let c := l.cursor
    some { l with
      candidate := some
        { required := !l.inFlow && l.indents.head? == some c.column
          number := l.count
          offset := c.offset
          line := c.line
          column := c.column } }
  else some l

/-- Allows or forbids that a key starts at the next token. -/
def allowKey (l : Lexer) (allowed : Bool) : Lexer := { l with keyAllowed := allowed }

/-- Skips gaps and comments. In a block, a line break allows a key, and tabs are only skipped where
none is allowed. A line may start with a byte order mark, which takes up a column. -/
def skipGaps : (fuel : Nat) → Lexer → Lexer
  | 0, l => l
  | fuel + 1, l =>
      let c := l.cursor
      let c := if c.column == 0 && startsWith '\ufeff' c.rest then c.skip else c
      let c := c.skipWhile fun d => d == ' ' || (d == '\t' && (l.inFlow || !l.keyAllowed))
      let c := if startsWith '#' c.rest then c.skipLine else c
      match c.skipBreak? with
      | some (_, c) => skipGaps fuel { l with cursor := c, keyAllowed := l.keyAllowed || !l.inFlow }
      | none => { l with cursor := c }

/-! ## Tokens -/

/-- Reads a directive. -/
def directive? (l : Lexer) : Option Lexer := do
  let l ← l.dedentAll.dropCandidate?
  let (t, c) ← l.cursor.skip.directive?
  some ((l.allowKey false).emitAt c t)

/-- Reads a marker of the start or the end of a document. -/
def documentMark? (l : Lexer) (t : Token) : Option Lexer := do
  let l ← l.dedentAll.dropCandidate?
  some ((l.allowKey false).emitAt (l.cursor.skipMany 3) t)

/-- Reads the start of a flow collection. -/
def openFlow? (l : Lexer) (t : Token) : Option Lexer := do
  let l ← l.remember?
  let l := { l with outer := l.candidate :: l.outer, candidate := none }
  some ((l.allowKey true).emitAt l.cursor.skip t)

/-- Reads the end of a flow collection. -/
def closeFlow? (l : Lexer) (t : Token) : Option Lexer := do
  let l ← l.dropCandidate?
  let l := match l.outer with
    | [] => l
    | k :: outer => { l with candidate := k, outer }
  some ((l.allowKey false).emitAt l.cursor.skip t)

/-- Reads a comma. -/
def comma? (l : Lexer) : Option Lexer := do
  let l ← l.dropCandidate?
  some ((l.allowKey true).emitAt l.cursor.skip .comma)

/-- Opens a block collection at the cursor, if none is open there; this is where a key might start. -/
def openBlock? (l : Lexer) (t : Token) : Option Lexer :=
  if l.inFlow then some l
  else if l.keyAllowed then some (l.indent l.cursor.column l.count t)
  else none

/-- Reads the dash of an entry. -/
def entry? (l : Lexer) : Option Lexer := do
  let l ← (← l.openBlock? .blockSequence).dropCandidate?
  some ((l.allowKey true).emitAt l.cursor.skip .entry)

/-- Reads the mark of a key. -/
def key? (l : Lexer) : Option Lexer := do
  let l ← (← l.openBlock? .blockMapping).dropCandidate?
  some ((l.allowKey !l.inFlow).emitAt l.cursor.skip .key)

/-- Reads the colon before a value. It makes a key of the candidate. -/
def value? (l : Lexer) : Option Lexer :=
  match l.candidate with
  | some k =>
      -- The start of the mapping goes before the key that opens it.
      let l := (l.insertAt k.number .key).indent k.column k.number .blockMapping
      let l := { l with candidate := none }
      some ((l.allowKey false).emitAt l.cursor.skip .value)
  | none => do
      let l ← l.openBlock? .blockMapping
      some ((l.allowKey !l.inFlow).emitAt l.cursor.skip .value)

/-- Reads an anchor or an alias. -/
def anchor? (l : Lexer) (t : String → Token) : Option Lexer := do
  let l ← l.remember?
  let (name, c) ← l.cursor.skip.anchor?
  some ((l.allowKey false).emitAt c (t name))

/-- Reads a tag. -/
def tag? (l : Lexer) : Option Lexer := do
  let l ← l.remember?
  let (t, c) ← l.cursor.tag? l.inFlow
  some ((l.allowKey false).emitAt c (.tag t))

/-- Reads a block scalar. -/
def block? (l : Lexer) (style : ScalarStyle) : Option Lexer := do
  let l ← l.dropCandidate?
  -- A block scalar is never a key, but a key may follow it at once.
  let (text, c) ← l.cursor.skip.block? (style == .folded) l.indents.head?
  some ((l.allowKey true).emitAt c (.scalar style (String.ofList text)))

/-- Reads a quoted scalar. -/
def quoted? (l : Lexer) (style : ScalarStyle) : Option Lexer := do
  let l ← l.remember?
  let (text, c) ← l.cursor.skip.quoted? (style == .doubleQuoted)
  some ((l.allowKey false).emitAt c (.scalar style (String.ofList text)))

/-- Reads a plain scalar. A key may follow on a new line. -/
def plain? (l : Lexer) : Option Lexer := do
  let l ← l.remember?
  let r ← l.cursor.plain? l.inFlow l.innerColumn
  some ((l.allowKey r.broken).emitAt r.after (.scalar .plain (String.ofList r.text)))

/-- Whether a plain scalar may start with the character `c` before `rest`. -/
def startsPlain (flow : Bool) (c : Char) (rest : List Char) : Bool :=
  (!isWhite c && !isBreak c && !"-?:,[]\x7b\x7d#&*!|>'\"%@`".toList.contains c) ||
    (c == '-' && !((rest.head?.map isWhite).getD false)) ||
    (!flow && (c == '?' || c == ':') && !atGap rest)

/-- Reads the token that starts with the character `c` before `rest`. -/
def token? (l : Lexer) (c : Char) (rest : List Char) : Option Lexer :=
  if l.cursor.column = 0 ∧ c = '%' then l.directive?
  else if l.cursor.atMark '-' then l.documentMark? .documentStart
  else if l.cursor.atMark '.' then l.documentMark? .documentEnd
  else if c = '[' then l.openFlow? .flowSequence
  else if c = '\x7b' then l.openFlow? .flowMapping
  else if c = ']' then l.closeFlow? .flowSequenceEnd
  else if c = '\x7d' then l.closeFlow? .flowMappingEnd
  else if c = ',' then l.comma?
  else if c = '-' ∧ atGap rest then l.entry?
  else if c = '?' ∧ (l.inFlow || atGap rest) then l.key?
  else if c = ':' ∧ (l.inFlow || atGap rest) then l.value?
  else if c = '*' then l.anchor? .alias
  else if c = '&' then l.anchor? .anchor
  else if c = '!' then l.tag?
  else if c = '|' ∧ !l.inFlow then l.block? .literal
  else if c = '>' ∧ !l.inFlow then l.block? .folded
  else if c = '\'' then l.quoted? .singleQuoted
  else if c = '"' then l.quoted? .doubleQuoted
  else if startsPlain l.inFlow c rest then l.plain?
  else none

/-- Reads all tokens that are left. -/
def run : (fuel : Nat) → Lexer → Option (List Token)
  | 0, _ => none
  | fuel + 1, l => do
      let l ← (skipGaps (l.cursor.rest.length + 1) l).dropStale?
      -- A token that lies less deep than the open collections ends them.
      let l := l.dedentTo l.cursor.column
      match l.cursor.rest with
      | [] =>
          let l ← l.dedentAll.dropCandidate?
          some l.tokens.reverse
      | c :: rest => run fuel (← l.token? c rest)

end Lexer

/-- The tokens of a text; none if it is ill-formed. -/
def Token.ofText? (text : String) : Option (List Token) :=
  let chars := text.toList
  if chars.all isAllowed then Lexer.run (chars.length + 1) (Lexer.start chars) else none

end Probe.Yaml
