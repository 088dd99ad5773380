/-!
# Texts received as bytes

A received text is a sequence of UTF-8 characters in which single bytes may belong to none.
`ofBytes` reads bytes as such a sequence, `ofString` takes a proper text, and `bytes` gives the
bytes back. Main statement: `toString?_ofString`.
-/

namespace Probe.Text

/-- One unit of a received text: a character, or a byte that belongs to none. -/
inductive Piece where
  | char (c : Char)
  | stray (b : UInt8)
  deriving DecidableEq, Repr

namespace Piece

/-- The bytes of a unit. -/
def bytes : Piece → List UInt8
  | char c => String.utf8EncodeChar c
  | stray b => [b]

/-- The number of bytes of a unit. -/
def width : Piece → Nat
  | char c => c.utf8Size
  | stray _ => 1

/-- The character of a unit that is one. -/
def char? : Piece → Option Char
  | char c => some c
  | stray _ => none

end Piece

/-- A text received as bytes. -/
abbrev Encoded := List Piece

namespace Encoded

/-- A proper text. -/
def ofString (s : String) : Encoded :=
  s.toList.map Piece.char

/-- A continuation byte carries six bits. -/
def tail? (b : UInt8) : Option Nat :=
  if 0x80 ≤ b ∧ b ≤ 0xBF then some (b.toNat - 0x80) else none

/-- The character that starts with byte `a`, and how many of the bytes that follow belong to it.
Overlong forms, surrogates and numbers past the last code point are no characters. -/
def charAt? (a : UInt8) (rest : List UInt8) : Option (Char × Nat) :=
  if a < 0x80 then some (Char.ofNat a.toNat, 0)
  else if a < 0xC2 then none
  else if a < 0xE0 then
    match rest with
    | b :: _ => do
        let x ← tail? b
        some (Char.ofNat ((a.toNat - 0xC0) * 64 + x), 1)
    | _ => none
  else if a < 0xF0 then
    match rest with
    | b :: c :: _ => do
        let x ← tail? b
        let y ← tail? c
        let n := ((a.toNat - 0xE0) * 64 + x) * 64 + y
        if 0x800 ≤ n ∧ ¬ (0xD800 ≤ n ∧ n ≤ 0xDFFF) then some (Char.ofNat n, 2) else none
    | _ => none
  else if a < 0xF5 then
    match rest with
    | b :: c :: d :: _ => do
        let x ← tail? b
        let y ← tail? c
        let z ← tail? d
        let n := (((a.toNat - 0xF0) * 64 + x) * 64 + y) * 64 + z
        if 0x10000 ≤ n ∧ n ≤ 0x10FFFF then some (Char.ofNat n, 3) else none
    | _ => none
  else none

/-- Reads bytes from left to right, one character where one starts and a stray byte otherwise. -/
def ofBytes : List UInt8 → Encoded
  | [] => []
  | a :: rest =>
      match charAt? a rest with
      | some (c, n) => .char c :: ofBytes (rest.drop n)
      | none => .stray a :: ofBytes rest
termination_by bytes => bytes.length
decreasing_by all_goals (simp only [List.length_cons, List.length_drop]; omega)

/-- The bytes of a text. -/
def bytes (t : Encoded) : List UInt8 :=
  t.flatMap Piece.bytes

/-- The number of bytes of a text. -/
def size : Encoded → Nat
  | [] => 0
  | p :: rest => p.width + size rest

/-- The characters of a text without stray bytes. -/
def chars? (t : Encoded) : Option (List Char) :=
  t.mapM Piece.char?

/-- The text as a string, if it has no stray bytes. -/
def toString? (t : Encoded) : Option String :=
  t.chars?.map String.ofList

theorem mapM_char? (cs : List Char) : (cs.map Piece.char).mapM Piece.char? = some cs := by
  induction cs with
  | nil => rfl
  | cons c cs ih => simp [List.mapM_cons, Piece.char?, ih]

/-- A proper text is read back. -/
theorem toString?_ofString (s : String) : (ofString s).toString? = some s := by
  rw [toString?, chars?, ofString, mapM_char?]
  simp

end Encoded

end Probe.Text
