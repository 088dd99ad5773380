/-!
# Glob patterns

A pattern matches a whole text. A question mark stands for any character, a star for any text, and a
bracket for one character in or outside of a set; two stars stand for any number of components of a
path, and have to be a component on their own. Main statement: `matches_any`.
-/

namespace Probe

/-- A range of characters. -/
structure CharRange where
  first : Char
  last : Char
  deriving DecidableEq, Repr

/-- Whether a character is in one of some ranges. -/
def CharRange.hasAny (ranges : List CharRange) (c : Char) : Bool :=
  ranges.any fun r => r.first ≤ c && c ≤ r.last

/-- A part of a pattern. -/
inductive GlobToken where
  | char (c : Char)
  | anyChar
  | anyText
  /-- Any number of components of a path. -/
  | anyComponents
  | within (ranges : List CharRange)
  | except (ranges : List CharRange)
  deriving DecidableEq, Repr

/-- A pattern. -/
abbrev Glob := List GlobToken

/-- What is wrong with a pattern, and where. -/
inductive GlobError where
  | range (position : Nat)
  | wildcards (position : Nat)
  | components (position : Nat)
  deriving DecidableEq, Repr

/-- The wording of an error. -/
def GlobError.message : GlobError → String
  | .range n => prelude n ++ "invalid range pattern"
  | .wildcards n => prelude n ++ "wildcards are either regular \x60*\x60 or recursive \x60**\x60"
  | .components n => prelude n ++ "recursive wildcards must form a single path component"
where
  /-- The part of the wording that tells the position. -/
  prelude (n : Nat) : String := "Pattern syntax error near position " ++ toString n ++ ": "

namespace Glob

/-- The ranges that stand in a bracket. -/
def ranges : List Char → List CharRange
  | a :: '-' :: b :: rest => ⟨a, b⟩ :: ranges rest
  | a :: rest => ⟨a, a⟩ :: ranges rest
  | [] => []

/-- Reads a bracket after its opening character: what it stands for, and the rest of the text. The first
character of a set may be a closing bracket. -/
def bracket? : List Char → Option (GlobToken × List Char)
  | '!' :: c :: rest => (closing? rest).map fun (inner, rest) => (.except (ranges (c :: inner)), rest)
  | '!' :: [] => none
  | c :: rest => (closing? rest).map fun (inner, rest) => (.within (ranges (c :: inner)), rest)
  | [] => none
where
  /-- The characters before and after the next closing bracket. -/
  closing? : List Char → Option (List Char × List Char)
    | [] => none
    | c :: rest =>
        if c = ']' then some ([], rest) else (closing? rest).map fun (inner, rest) => (c :: inner, rest)

/-- Reads a pattern from the position `i` on; `last` is the character before it, and `found` are the parts
found so far, the last one first. -/
def compileFrom :
    (fuel : Nat) → (i : Nat) → (last : Option Char) → (found : List GlobToken) → List Char →
      Except GlobError Glob
  | 0, _, _, found, _ => .ok found.reverse
  | fuel + 1, i, last, found, s =>
      match s with
      | [] => .ok found.reverse
      | '?' :: rest => compileFrom fuel (i + 1) (some '?') (.anyChar :: found) rest
      | '*' :: rest =>
          let more := (rest.takeWhile (· == '*')).length
          let rest := rest.drop more
          if more = 0 then compileFrom fuel (i + 1) (some '*') (.anyText :: found) rest
          else if 1 < more then .error (.wildcards (i + 2))
          else if last.isSome && last != some '/' then .error (.components (i - 1))
          else
            -- Wildcards for components that follow each other are one.
            let doubled := 1 < found.length && found.head? == some .anyComponents
            let found := if doubled then found else .anyComponents :: found
            match rest with
            | [] => .ok found.reverse
            | '/' :: rest => compileFrom fuel (i + 3) (some '/') found rest
            | _ :: _ => .error (.components (i + 2))
      | '[' :: rest =>
          match bracket? rest with
          | some (t, left) =>
              compileFrom fuel (i + (s.length - left.length)) (some ']') (t :: found) left
          | none => .error (.range i)
      | c :: rest => compileFrom fuel (i + 1) (some c) (.char c :: found) rest

/-- Reads a pattern. -/
def compile (pattern : String) : Except GlobError Glob :=
  compileFrom (pattern.toList.length + 1) 0 none [] pattern.toList

/-- Whether `p` accepts a text without some of its first characters. -/
def anySuffix (p : List Char → Bool) : List Char → Bool
  | [] => p []
  | c :: rest => p (c :: rest) || anySuffix p rest

/-- Whether `p` accepts what comes after one of the slashes of a text, or nothing at its end. -/
def anyAfterSlash (p : List Char → Bool) : List Char → Bool
  | [] => p []
  | c :: rest => (c == '/' && p rest) || anyAfterSlash p rest

/-- Whether a pattern matches a whole text. -/
def accepts : Glob → List Char → Bool
  | [], s => s.isEmpty
  | .anyText :: ts, s => anySuffix (accepts ts) s
  | .anyComponents :: ts, s => accepts ts s || anyAfterSlash (accepts ts) s
  | t :: ts, s =>
      match s with
      | [] => false
      | c :: rest =>
          (match t with
            | .char d => c == d
            | .within ranges => CharRange.hasAny ranges c
            | .except ranges => !CharRange.hasAny ranges c
            | _ => true) && accepts ts rest

/-- Whether a pattern matches a whole text. -/
def matchesText (g : Glob) (text : String) : Bool :=
  g.accepts text.toList

theorem anySuffix_nil (p : List Char → Bool) (s : List Char) (h : p [] = true) : anySuffix p s = true := by
  induction s with
  | nil => exact h
  | cons c rest ih => simp [anySuffix, ih]

/-- A star on its own matches any text. -/
theorem matches_any (text : String) : matchesText [.anyText] text = true :=
  anySuffix_nil _ _ rfl

end Glob

end Probe
