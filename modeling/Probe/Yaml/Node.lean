import Probe.Yaml.Token

/-!
# YAML nodes

A document is a tree of scalars, sequences and mappings in which an alias stands for a node that has
an anchor. The nodes with anchors are numbered, and are looked up when an alias is followed: an alias
may lead back to a node around it.
-/

namespace Probe.Yaml

/-- A scalar as written. -/
structure Scalar where
  style : ScalarStyle
  tag : Option Tag
  text : String
  deriving DecidableEq, Repr

/-- A node. -/
inductive Node where
  | scalar (s : Scalar)
  | sequence (tag : Option Tag) (items : List Node)
  | mapping (tag : Option Tag) (entries : List (Node × Node))
  | alias (number : Nat)

/-- The scalar that stands where nothing is written. -/
def Node.nothing (tag : Option Tag) : Node :=
  .scalar ⟨.plain, tag, ""⟩

mutual

/-- The number of starts and ends of nodes in a node. -/
def Node.size : Node → Nat
  | .scalar _ | .alias _ => 1
  | .sequence _ items => 2 + sizeAll items
  | .mapping _ entries => 2 + sizeEntries entries

/-- The number of starts and ends of nodes in a list of nodes. -/
def sizeAll : List Node → Nat
  | [] => 0
  | n :: rest => n.size + sizeAll rest

/-- The number of starts and ends of nodes in a list of entries. -/
def sizeEntries : List (Node × Node) → Nat
  | [] => 0
  | (key, value) :: rest => key.size + value.size + sizeEntries rest

end

/-- A document: its root, unless nothing is written at all, and its numbered nodes. -/
structure Document where
  root : Option Node
  anchored : List (Nat × Node)

namespace Document

/-- The node that an alias stands for. -/
def target? (d : Document) (number : Nat) : Option Node :=
  d.anchored.lookup number

/-- The number of starts and ends of nodes in a document. -/
def size (d : Document) : Nat :=
  (d.root.map Node.size).getD 1

end Document

end Probe.Yaml
