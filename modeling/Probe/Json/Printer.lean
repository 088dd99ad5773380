import Probe.Decimal.Layout
import Probe.Json.Value

/-!
# JSON texts of values

Two ways to write a value: on one line without blanks, and over several lines with two blanks for
each level. Main statement: `compact_string`.
-/

namespace Probe.Json

open Probe.Decimal

/-- JSON numbers have a point or an exponent: plain from `1e-5` to below `1e16`, with a sign after
the `e` otherwise; of two equally near decimals the even one is written. -/
def numberLayout : Layout := ⟨some (-5, 15), true, .toEven⟩

/-- The text of a number. -/
def Number.text : Number → String
  | integer n => toString n
  | binary x => numberLayout.text x

/-- The four hexadecimal digits of a control character. -/
def fourDigits (c : Char) : List Char :=
  let digits := Nat.toDigits 16 c.toNat
  List.replicate (4 - digits.length) '0' ++ digits

/-- How a character is written inside a string: quotes, backslashes and control characters are
escaped, all else is written as it is. -/
def escape (c : Char) : List Char :=
  if c = '"' then ['\\', '"']
  else if c = '\\' then ['\\', '\\']
  else if c = '\x08' then ['\\', 'b']
  else if c = '\x0c' then ['\\', 'f']
  else if c = '\n' then ['\\', 'n']
  else if c = '\r' then ['\\', 'r']
  else if c = '\t' then ['\\', 't']
  else if c.toNat < 0x20 then '\\' :: 'u' :: fourDigits c
  else [c]

/-- A string between quotes. -/
def stringText (s : String) : List Char :=
  '"' :: s.toList.flatMap escape ++ ['"']

/-- The text of a value that is neither an array nor an object. -/
def scalarText : Value → List Char
  | .null => ['n', 'u', 'l', 'l']
  | .bool true => ['t', 'r', 'u', 'e']
  | .bool false => ['f', 'a', 'l', 's', 'e']
  | .number n => n.text.toList
  | .string s => stringText s
  | .array _ => ['[', ']']
  | .object _ => ['{', '}']

/-- Parts with a separator between neighbours. -/
def separated (sep : List Char) : List (List Char) → List Char
  | [] => []
  | [p] => p
  | p :: q :: rest => p ++ sep ++ separated sep (q :: rest)

mutual

/-- The text of a value on one line without blanks. -/
def compactChars : Value → List Char
  | .array items => '[' :: separated [','] (compactItems items) ++ [']']
  | .object members => '{' :: separated [','] (compactMembers members) ++ ['}']
  | scalar => scalarText scalar

/-- The texts of the items of an array. -/
def compactItems : List Value → List (List Char)
  | [] => []
  | v :: rest => compactChars v :: compactItems rest

/-- The texts of the members of an object. -/
def compactMembers : List (String × Value) → List (List Char)
  | [] => []
  | (key, v) :: rest => (stringText key ++ ':' :: compactChars v) :: compactMembers rest

end

/-- A new line that starts with the blanks of a level. -/
def newline (level : Nat) : List Char :=
  '\n' :: List.replicate (2 * level) ' '

/-- The parts of a container, each on a line of its own one level deeper; an empty container stays on
its line. -/
def block (first last : Char) (level : Nat) (parts : List (List Char)) : List Char :=
  if parts.isEmpty then [first, last]
  else
    first :: newline (level + 1) ++ separated (',' :: newline (level + 1)) parts ++
      newline level ++ [last]

mutual

/-- The text of a value over several lines, at a level. -/
def prettyChars (level : Nat) : Value → List Char
  | .array items => block '[' ']' level (prettyItems (level + 1) items)
  | .object members => block '{' '}' level (prettyMembers (level + 1) members)
  | scalar => scalarText scalar

/-- The texts of the items of an array, at a level. -/
def prettyItems (level : Nat) : List Value → List (List Char)
  | [] => []
  | v :: rest => prettyChars level v :: prettyItems level rest

/-- The texts of the members of an object, at a level. -/
def prettyMembers (level : Nat) : List (String × Value) → List (List Char)
  | [] => []
  | (key, v) :: rest =>
      (stringText key ++ ':' :: ' ' :: prettyChars level v) :: prettyMembers level rest

end

namespace Value

/-- The text of a value on one line without blanks. -/
def compact (v : Value) : String :=
  String.ofList (compactChars v)

/-- The text of a value over several lines. -/
def pretty (v : Value) : String :=
  String.ofList (prettyChars 0 v)

/-- The text of an observed value: the contents of a string, the compact text of all else. -/
def text : Value → String
  | string s => s
  | other => other.compact

/-- A string is written between quotes. -/
theorem compact_string (s : String) : (string s).compact = String.ofList (stringText s) := by
  simp [compact, compactChars, scalarText]

end Value

end Probe.Json
