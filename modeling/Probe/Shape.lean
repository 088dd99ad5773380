import Probe.Text.Quoted

/-!
# Shapes and mismatches

A mismatch says that a document holds one kind of thing where another is expected.
-/

namespace Probe

/-- What a document holds at a place, as far as a mismatch tells. Numbers with a fraction carry their
text. -/
inductive Shape where
  | null
  | unit
  | bool (b : Bool)
  | integer (n : Int)
  | wide (n : Int)
  | float (text : String)
  | string (s : String)
  | sequence
  | map
  | enum
  deriving DecidableEq, Repr

/-- The wording of a shape. -/
def Shape.message : Shape → String
  | null => "null"
  | unit => "unit value"
  | bool b => "boolean `" ++ toString b ++ "`"
  | integer n => "integer `" ++ toString n ++ "`"
  | wide n =>
      "integer `" ++ toString n ++ "` as " ++ (if n < 0 then "i128" else "u128")
  | float text => "floating point `" ++ text ++ "`"
  | string s => "string " ++ Text.quote s
  | sequence => "sequence"
  | map => "map"
  | enum => "enum"

/-- What is wrong with what a document holds at a place. -/
inductive Mismatch where
  /-- The thing is of another kind than expected. -/
  | kind (found : Shape) (expected : String)
  /-- The thing is of the kind expected, but no such value. -/
  | value (found : Shape) (expected : String)
  deriving DecidableEq, Repr

/-- The wording of a mismatch. -/
def Mismatch.message : Mismatch → String
  | kind found expected => "invalid type: " ++ found.message ++ ", expected " ++ expected
  | value found expected => "invalid value: " ++ found.message ++ ", expected " ++ expected

end Probe
