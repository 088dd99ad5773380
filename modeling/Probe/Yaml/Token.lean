import Probe.Text.Encoded

/-!
# YAML tokens

The tokens of a YAML text. The layout of a block collection is told by tokens at its start and its
end.
-/

namespace Probe.Yaml

/-- How a scalar is written. -/
inductive ScalarStyle where
  | plain
  | singleQuoted
  | doubleQuoted
  | literal
  | folded
  deriving DecidableEq, Repr

/-- A tag in full. Its escapes may spell bytes that belong to no character. -/
abbrev Tag := Text.Encoded

/-- The full form of a core tag. -/
def coreTag (name : String) : Tag := .ofString ("tag:yaml.org,2002:" ++ name)

/-- A tag as written: a handle, and what follows it. -/
structure TagToken where
  handle : String
  suffix : Tag
  deriving DecidableEq, Repr

/-- A token. -/
inductive Token where
  | version (major minor : Nat)
  | tagHandle (handle : String) (lead : Tag)
  | documentStart
  | documentEnd
  | blockSequence
  | blockMapping
  | blockEnd
  | flowSequence
  | flowSequenceEnd
  | flowMapping
  | flowMappingEnd
  | entry
  | comma
  | key
  | value
  | alias (name : String)
  | anchor (name : String)
  | tag (t : TagToken)
  | scalar (style : ScalarStyle) (text : String)
  deriving DecidableEq, Repr

end Probe.Yaml
