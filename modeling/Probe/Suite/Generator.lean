import Probe.Suite.Words
import Probe.Text.Lower

/-!
# Generators

The kinds of random value that a suite can ask for.
-/

namespace Probe

/-- A kind of random value. -/
inductive Generator where
  | email
  | number
  | string
  deriving DecidableEq, Repr

namespace Generator

/-- The generator of a name, in any mixture of cases. -/
def ofName? (name : String) : Option Generator :=
  match Text.lowerCase name with
  | "email" => some email
  | "number" => some number
  | "string" => some string
  | _ => none

/-- Generates a value: a mail address with a number below 100 000, a number below 1 000 000, or twelve
letters and digits. -/
def generate : Generator → Words → String × Words
  | email, words =>
      let (n, words) := (Sampler.below 100000).draw words
      ("test-" ++ toString n ++ "@mail.org", words)
  | number, words =>
      let (n, words) := (Sampler.below 1000000).draw words
      (toString n, words)
  | string, words =>
      let (letters, words) := Sampler.letter.drawMany 12 words
      (String.ofList letters, words)

end Generator

end Probe
