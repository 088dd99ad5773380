import Probe.Yaml.Token.Fold

/-!
# Plain scalars

A plain scalar has no quotes. It ends before a comment, before a colon that a gap follows, at a line
that is indented less, and in a flow collection at the punctuation of the collection.
-/

namespace Probe.Yaml

namespace Plain

/-- Punctuation of flow collections. -/
def isFlowMark (c : Char) : Bool :=
  c == ',' || c == '[' || c == ']' || c == '\x7b' || c == '\x7d'

/-- Whether a word ends before the rest of a text. -/
def endsWord (flow : Bool) (rest : List Char) : Bool :=
  match rest with
  | [] => true
  | c :: rest => isWhite c || isBreak c || (c == ':' && atGap rest) || (flow && isFlowMark c)

/-- Whether a colon stands where a flow collection allows none. -/
def misplacedColon (flow : Bool) : List Char → Bool
  | ':' :: d :: _ => flow && (isFlowMark d || d == '?')
  | _ => false

/-- The length of the word in front of a text. -/
def wordLength? (flow : Bool) : List Char → Option Nat
  | [] => some 0
  | c :: rest =>
      if isWhite c || isBreak c then some 0
      else if misplacedColon flow (c :: rest) then none
      else if endsWord flow (c :: rest) then some 0
      else (wordLength? flow rest).map (· + 1)

/-- A plain scalar, the place after it and after the gap that follows, and whether that gap goes over
the end of a line. -/
structure Result where
  text : List Char
  after : Cursor
  broken : Bool

/-- Reads words and the gaps between them. -/
def read (flow : Bool) (indent : Nat) :
    (fuel : Nat) → (text : List Char) → Gap → Cursor → Option Result
  | 0, _, _, _ => none
  | fuel + 1, text, gap, c =>
      if c.atDocumentMark || startsWith '#' c.rest then some ⟨text, c, gap.broken⟩
      else do
        let n ← wordLength? flow c.rest
        if n = 0 then some ⟨text, c, gap.broken⟩
        else
          -- The gap counts only now that a word follows it.
          let text := text ++ gap.text ++ c.rest.take n
          let c := c.skipMany n
          if atGap c.rest && !c.rest.isEmpty then
            let (gap, c) ← c.gap? indent Gap.empty
            -- A line that is indented less belongs to what is around the scalar.
            if !flow && c.column < indent then some ⟨text, c, gap.broken⟩
            else read flow indent fuel text gap c
          else some ⟨text, c, false⟩

end Plain

/-- Reads a plain scalar. In a block its lines are indented by `indent` at least. -/
def Cursor.plain? (c : Cursor) (flow : Bool) (indent : Nat) : Option Plain.Result :=
  Plain.read flow indent (c.rest.length + 1) [] Gap.empty c

end Probe.Yaml
