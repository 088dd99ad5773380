import Probe.Decimal.Digits
import Probe.Yaml.Token.Fold

/-!
# Quoted scalars

Between single quotes only a doubled quote is special; between double quotes a backslash starts an
escape. Lines are folded.
-/

namespace Probe.Yaml

namespace Quoted

/-- The character of an escape of one letter. -/
def simpleEscape? : Char → Option Char
  | '0' => some '\x00'
  | 'a' => some '\x07'
  | 'b' => some '\x08'
  | 't' => some '\t'
  | '\t' => some '\t'
  | 'n' => some '\n'
  | 'v' => some '\x0b'
  | 'f' => some '\x0c'
  | 'r' => some '\r'
  | 'e' => some '\x1b'
  | ' ' => some ' '
  | '"' => some '"'
  | '/' => some '/'
  | '\\' => some '\\'
  | 'N' => some '\u0085'
  | '_' => some '\u00a0'
  | 'L' => some '\u2028'
  | 'P' => some '\u2029'
  | _ => none

/-- The number of hexadecimal digits after a letter that starts a numeric escape. -/
def hexWidth? : Char → Option Nat
  | 'x' => some 2
  | 'u' => some 4
  | 'U' => some 8
  | _ => none

/-- The character of an escape, and the number of characters after the backslash. -/
def escape? : List Char → Option (Char × Nat)
  | [] => none
  | c :: rest =>
      match hexWidth? c with
      | none => (simpleEscape? c).map fun d => (d, 1)
      | some width => do
          let digits := rest.take width
          if digits.length < width then none
          else
            let n ← Decimal.natural? 16 digits
            if n.isValidChar then some (Char.ofNat n, width + 1) else none

/-- Reads the characters up to a gap or the closing quote. The flag tells whether a line has ended by
an escape. -/
def word (double : Bool) : (fuel : Nat) → Cursor → Option (List Char × Bool × Cursor)
  | 0, _ => none
  | fuel + 1, c =>
      match c.rest with
      | [] => some ([], false, c)
      | d :: rest =>
          let more (e : Char) (n : Nat) : Option (List Char × Bool × Cursor) :=
            (word double fuel (c.skipMany n)).map fun (text, escaped) => (e :: text, escaped)
          if isWhite d || isBreak d then some ([], false, c)
          else if double then
            if d = '"' then some ([], false, c)
            else if d = '\\' then
              match c.skip.skipBreak? with
              -- A line break after a backslash joins the lines.
              | some (_, c) => some ([], true, c)
              | none => do
                  let (e, n) ← escape? rest
                  more e (n + 1)
            else more d 1
          else if d = '\'' then
            if startsWith '\'' rest then more d 2 else some ([], false, c)
          else more d 1

/-- Reads words and gaps up to the closing quote, and skips it. -/
def read (double : Bool) : (fuel : Nat) → (text : List Char) → Cursor → Option (List Char × Cursor)
  | 0, _, _ => none
  | fuel + 1, text, c => do
      if c.atDocumentMark || c.rest.isEmpty then none
      else
        let (word, escaped, c) ← word double (c.rest.length + 1) c
        let text := text ++ word
        if startsWith (if double then '"' else '\'') c.rest then some (text, c.skip)
        else
          let (gap, c) ← c.gap? 0 (if escaped then Gap.escaped else Gap.empty)
          read double fuel (text ++ gap.text) c

end Quoted

/-- Reads the rest of a scalar after its opening quote. -/
def Cursor.quoted? (c : Cursor) (double : Bool) : Option (List Char × Cursor) :=
  Quoted.read double (c.rest.length + 1) [] c

end Probe.Yaml
