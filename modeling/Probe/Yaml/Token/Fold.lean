import Probe.Yaml.Cursor

/-!
# Folding lines

What stands between two words of a scalar that goes over several lines: white space on one line is
kept, a single line break is folded into a space, and of several breaks the first is dropped.
-/

namespace Probe.Yaml

/-- White space and line breaks between words. -/
structure Gap where
  /-- The white space before the first line break. -/
  white : List Char
  /-- Whether a line has ended. -/
  broken : Bool
  /-- The text of the first line break. -/
  first : List Char
  /-- The text of the other line breaks. -/
  more : List Char

namespace Gap

/-- Nothing between words. -/
def empty : Gap := ⟨[], false, [], []⟩

/-- A line that has ended by an escape, which leaves no trace. -/
def escaped : Gap := ⟨[], true, [], []⟩

/-- What a gap is folded into. -/
def text (g : Gap) : List Char :=
  if g.broken then
    if g.first = ['\n'] then (if g.more.isEmpty then [' '] else g.more) else g.first ++ g.more
  else g.white

/-- Reads a gap. White space at the start of a line is dropped, but a tab before the column `indent` is
refused. -/
def read (indent : Nat) : (fuel : Nat) → Gap → Cursor → Option (Gap × Cursor)
  | 0, _, _ => none
  | fuel + 1, g, c =>
      match c.rest with
      | [] => some (g, c)
      | d :: _ =>
          if isWhite d then
            if g.broken then
              if d = '\t' ∧ c.column < indent then none else read indent fuel g c.skip
            else read indent fuel { g with white := g.white ++ [d] } c.skip
          else
            match c.skipBreak? with
            | none => some (g, c)
            | some (s, c) =>
                if g.broken then read indent fuel { g with more := g.more ++ s } c
                else read indent fuel { g with white := [], broken := true, first := s } c

end Gap

/-- Reads the gap at a place. -/
def Cursor.gap? (c : Cursor) (indent : Nat) (g : Gap) : Option (Gap × Cursor) :=
  g.read indent (c.rest.length + 1) c

/-- A single line break is folded into a space. -/
theorem Gap.text_single (white : List Char) : (Gap.mk white true ['\n'] []).text = [' '] := rfl

end Probe.Yaml
