import Probe.Decimal.Digits
import Probe.Yaml.Cursor

/-!
# Block scalars

A block scalar is written on lines of its own below a header. Its lines are kept in the literal style
and folded in the other one; the header may give the indentation, and what becomes of the line
breaks at the end.
-/

namespace Probe.Yaml

namespace Block

/-- What becomes of the line breaks at the end. -/
inductive Chomping where
  /-- All are dropped. -/
  | strip
  /-- One is kept. -/
  | clip
  /-- All are kept. -/
  | keep
  deriving DecidableEq, Repr

/-- The chomping that a sign asks for. -/
def chomping? : List Char → Option Chomping
  | '+' :: _ => some .keep
  | '-' :: _ => some .strip
  | _ => none

/-- The indentation that a digit asks for; none without a digit. Zero is no indentation. -/
def increment? (c : Cursor) : Option (Option Nat × Cursor) :=
  match c.rest with
  | d :: _ =>
      match Decimal.digitValue? 10 d with
      | some 0 => none
      | some n => some (some n, c.skip)
      | none => some (none, c)
  | [] => some (none, c)

/-- Reads the two marks of a header in any order. -/
def header? (c : Cursor) : Option (Chomping × Option Nat × Cursor) :=
  match chomping? c.rest with
  | some chomping => do
      let (n, c) ← increment? c.skip
      some (chomping, n, c)
  | none => do
      let (n, c) ← increment? c
      match n, chomping? c.rest with
      | some n, some chomping => some (chomping, some n, c.skip)
      | n, _ => some (.clip, n, c)

/-- Empty lines and the indentation after them: the text of the breaks, and the widest
indentation. With an indentation given, no more than that is skipped on a line; a tab is refused in
its place. -/
def emptyLines (indent : Option Nat) :
    (fuel : Nat) → (text : List Char) → (widest : Nat) → Cursor → Option (List Char × Nat × Cursor)
  | 0, _, _, _ => none
  | fuel + 1, text, widest, c =>
      let spaces := (c.rest.takeWhile (· == ' ')).length
      let c := c.skipMany (match indent with
        | some n => min spaces (n - c.column)
        | none => spaces)
      let widest := max widest c.column
      let short := match indent with
        | some n => c.column < n
        | none => true
      if short && startsWith '\t' c.rest then none
      else
        match c.skipBreak? with
        | some (s, c) => emptyLines indent fuel (text ++ s) widest c
        | none => some (text, widest, c)

/-- What has been read of a block scalar. -/
structure Progress where
  text : List Char
  /-- The break at the end of the last line. -/
  lead : List Char
  /-- The breaks of the empty lines after it. -/
  trail : List Char
  /-- Whether the last line started with white space. -/
  white : Bool

/-- Reads the lines of the given indentation. -/
def content (folded : Bool) (indent : Nat) :
    (fuel : Nat) → Progress → Cursor → Option (Progress × Cursor)
  | 0, _, _ => none
  | fuel + 1, p, c =>
      match c.rest with
      | [] => some (p, c)
      | d :: _ =>
          if c.column ≠ indent then some (p, c)
          else do
            let white := isWhite d
            -- Lines that start with white space are never folded.
            let lead :=
              if folded && p.lead == ['\n'] && !p.white && !white then
                (if p.trail.isEmpty then [' '] else [])
              else p.lead
            let (line, c) := c.takeWhile fun d => !isBreak d
            let (brk, c) := (c.skipBreak?).getD ([], c)
            let (trail, _, c) ← emptyLines (some indent) (c.rest.length + 1) [] 0 c
            content folded indent fuel
              { text := p.text ++ lead ++ p.trail ++ line, lead := brk, trail, white } c

end Block

/-- Reads a block scalar after its indicator. The lines around it are indented by `outer`; none is the
top level. -/
def Cursor.block? (c : Cursor) (folded : Bool) (outer : Option Nat) : Option (List Char × Cursor) := do
  let (chomping, increment, c) ← Block.header? c
  let c := c.skipRemark
  if atLineEnd c.rest then
    let c := c.skipBreak
    let given := increment.map (· + outer.getD 0)
    let (trail, widest, c) ← Block.emptyLines given (c.rest.length + 1) [] 0 c
    let least := match outer with
      | some n => n + 1
      | none => 1
    let indent := given.getD (max widest least)
    let (p, c) ← Block.content folded indent (c.rest.length + 1) ⟨[], [], trail, false⟩ c
    let text := match chomping with
      | .strip => p.text
      | .clip => p.text ++ p.lead
      | .keep => p.text ++ p.lead ++ p.trail
    some (text, c)
  else none

end Probe.Yaml
