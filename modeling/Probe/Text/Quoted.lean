import Probe.Text.Hidden

/-!
# Quoted texts

A text between double quotes on one line: quotes and backslashes are escaped, the common controls
have short escapes, and hidden characters are written by their number. Main statement:
`escape_of_plain`.
-/

namespace Probe.Text

/-- The number of a character between braces, in lower-case hexadecimal digits. -/
def numbered (c : Char) : List Char :=
  ['\\', 'u', '{'] ++ Nat.toDigits 16 c.toNat ++ ['}']

/-- How a character is written between double quotes. -/
def escape (c : Char) : List Char :=
  if c = '"' then ['\\', '"']
  else if c = '\\' then ['\\', '\\']
  else if c = '\t' then ['\\', 't']
  else if c = '\r' then ['\\', 'r']
  else if c = '\n' then ['\\', 'n']
  else if c = Char.ofNat 0 then ['\\', '0']
  else if isHidden c then numbered c
  else [c]

/-- A text between double quotes. -/
def quote (s : String) : String :=
  "\"" ++ String.ofList (s.toList.flatMap escape) ++ "\""

/-- A character that is no quote, no backslash and not hidden is written as it is. -/
theorem escape_of_plain (c : Char) (hq : c ≠ '"') (hb : c ≠ '\\') (hh : isHidden c = false) :
    escape c = [c] := by
  have h (d : Char) (hd : isHidden d = true) : c ≠ d := by
    intro e; rw [e, hd] at hh; exact Bool.noConfusion hh
  have ht := h '\t' (by decide)
  have hr := h '\r' (by decide)
  have hn := h '\n' (by decide)
  have hz := h (Char.ofNat 0) (by decide)
  simp [escape, hq, hb, hh, ht, hr, hn, hz]

end Probe.Text
