import Probe.Yaml.Document
import Probe.Yaml.Scalar

/-!
# Decoding documents

A place is a node of a document with the path that leads to it. Values are read off places, and what
is wrong with a document is told with the path of the place. Main statement: `text_scalar`.
-/

namespace Probe.Yaml

/-- A step of a path. -/
inductive Step where
  | item (index : Nat)
  | entry (key : String)
  /-- To the value of a key that is no plain name. -/
  | unnamed

/-- The text of a path, of which the last step comes first. -/
def pathText : List Step → String
  | [] => "."
  | .item i :: path => pathText path ++ "[" ++ toString i ++ "]"
  | .entry key :: path => (if path.isEmpty then "" else pathText path ++ ".") ++ key
  | .unnamed :: path => (if path.isEmpty then "" else pathText path ++ ".") ++ "?"

/-- What is wrong with a document. -/
inductive Fault where
  | mismatch (m : Mismatch)
  | missingField (name : String)
  | unknownField (name : String) (known : List String)
  | duplicateField (name : String)
  /-- A value is of none of the kinds of a scalar. -/
  | noVariant (kind : String)
  /-- A value has a local tag where none may be. -/
  | localTag

/-- A name between back quotes. -/
def ticked (name : String) : String := "\x60" ++ name ++ "\x60"

/-- The wording of a fault. -/
def Fault.message : Fault → String
  | .mismatch m => m.message
  | .missingField name => "missing field " ++ ticked name
  | .unknownField name known =>
      "unknown field " ++ ticked name ++ ", expected one of " ++
        String.intercalate ", " (known.map ticked)
  | .duplicateField name => "duplicate field " ++ ticked name
  | .noVariant kind => "data did not match any variant of untagged enum " ++ kind
  | .localTag => "untagged and internally tagged enums do not support enum input"

/-- Why a text cannot be read. -/
inductive ReadError where
  /-- The text is not exactly one well-formed document. -/
  | illFormed
  /-- Containers are nested too deep, or aliases are followed too often. -/
  | endless
  | fault (path : List Step) (f : Fault)

/-- The wording of an error. What is wrong with the form of a text has no wording. -/
def ReadError.message : ReadError → String
  | .illFormed | .endless => "<yaml>"
  | .fault [] f => f.message
  | .fault path f => pathText path ++ ": " ++ f.message

/-- A step of reading a document, which knows how many aliases may still be followed. -/
abbrev Decode := StateT Nat (Except ReadError)

/-- A node of a document and the path to it. -/
structure Place where
  document : Document
  node : Node
  path : List Step

namespace Place

/-- An error at a place. -/
def refuse {α : Type} (p : Place) (f : Fault) : Decode α :=
  throw (.fault p.path f)

/-- The place itself, or the one where the alias at it leads. -/
def follow (p : Place) : Decode Place := do
  match p.node with
  | .alias number =>
      match ← get with
      | 0 => throw .endless
      | left + 1 =>
          set left
          pure { p with node := (p.document.target? number).getD p.node }
  | _ => pure p

/-- The error that another kind of thing is expected at a place, from which no alias leads on. -/
def mismatch {α : Type} (p : Place) (expected : String) : Decode α :=
  let kind (found : Shape) : Fault := .mismatch (.kind found expected)
  match p.node with
  | .scalar s =>
      match s.resolve with
      | .ok r => p.refuse (kind r.shape)
      | .error m => p.refuse (.mismatch m)
  | .sequence _ _ => p.refuse (kind .sequence)
  | .mapping _ _ => p.refuse (kind .map)
  | .alias _ => throw .endless

/-- The text of a scalar of any kind. -/
def text (p : Place) (expected : String) : Decode String := do
  let p ← p.follow
  match p.node with
  | .scalar s => pure s.text
  | _ => p.mismatch expected

/-- Whether a scalar may spell a value of a core kind: it is plain, or literal with the tag of that kind. -/
def mayBe (kind : String) (s : Scalar) : Bool :=
  s.style == .plain || (s.style == .literal && s.tag == some (coreTag kind))

/-- The boolean at a place. -/
def flag (p : Place) : Decode Bool := do
  let p ← p.follow
  match p.node with
  | .scalar s =>
      match (if mayBe "bool" s then boolean? s.text else none) with
      | some b => pure b
      | none => p.mismatch "a boolean"
  | _ => p.mismatch "a boolean"

/-- The natural number of a scalar that spells one of 64 bits. -/
def naturalOf? (s : Scalar) : Option Nat := do
  let n ← if mayBe "int" s then natural? s.text.toList else none
  if n < Decimal.twoTo 64 then some n else none

/-- The natural number of some bits at a place. -/
def natural (p : Place) (bits : Nat) : Decode Nat := do
  let expected := "u" ++ toString bits
  let p ← p.follow
  match p.node with
  | .scalar s =>
      match naturalOf? s with
      | some n =>
          if n < Decimal.twoTo bits then pure n else p.refuse (.mismatch (.value (.integer n) expected))
      | none => p.mismatch expected
  | _ => p.mismatch expected

/-- Whether a scalar stands for the lack of a value; the error is that its tag says so but its text is
another one. -/
def isAbsent (s : Scalar) : Except Mismatch Bool :=
  if s.style != .plain then .ok false
  else
    match s.tag with
    | none => .ok (s.text == "" || isNull s.text)
    | some tag =>
        if tag == coreTag "null" then
          if isNull s.text then .ok true else .error (.value (.string s.text) "null")
        else .ok false

/-- Reads what is at a place unless nothing is; a wrong tag for nothing is an error of the record around
the place. -/
def optional {α : Type} (p : Place) (record : Place) (read : Place → Decode α) : Decode (Option α) := do
  let p ← p.follow
  match p.node with
  | .scalar s =>
      match isAbsent s with
      | .ok true => pure none
      | .ok false => (read p).map some
      | .error m => record.refuse (.mismatch m)
  | _ => (read p).map some

/-- Whether a scalar is no text at all, which also stands for an empty collection. -/
def isNothing (s : Scalar) : Bool :=
  s.style == .plain && s.text == ""

/-- The items of a sequence. -/
def items (p : Place) (expected : String) : Decode (List Place) := do
  let p ← p.follow
  match p.node with
  | .sequence _ items =>
      pure (items.zipIdx.map fun (n, i) => { p with node := n, path := .item i :: p.path })
  | .scalar s => if isNothing s then pure [] else p.mismatch expected
  | _ => p.mismatch expected

/-- The step to the value of a key. -/
def stepOf : Node → Step
  | .scalar s => .entry s.text
  | _ => .unnamed

/-- The keys and values of a mapping. -/
def entries (p : Place) (expected : String) : Decode (List (Place × Place)) := do
  let p ← p.follow
  match p.node with
  | .mapping _ entries =>
      pure (entries.map fun (k, v) =>
        ({ p with node := k }, { p with node := v, path := stepOf k :: p.path }))
  | .scalar s => if isNothing s then pure [] else p.mismatch expected
  | _ => p.mismatch expected

/-- What the scalar at a place stands for; local tags, sequences and mappings have no place here. -/
def scalarValue (p : Place) (expected : String) : Decode Resolved := do
  let p ← p.follow
  let kind (found : Shape) : Decode Resolved := p.refuse (.mismatch (.kind found expected))
  match p.node with
  | .scalar s =>
      if isLocal s.tag then kind .enum
      else
        match s.resolve with
        | .ok r => pure r
        | .error m => p.refuse (.mismatch m)
  | .sequence tag _ => kind (if isLocal tag then .enum else .sequence)
  | .mapping tag _ => kind (if isLocal tag then .enum else .map)
  | .alias _ => throw .endless

/-! ## Records -/

/-- Reads the entries of a record in order: `assign` reads the field of a name into the record. Of the
names given, each may come once; another name is refused if the record is strict. -/
def assignAll {α : Type} (record : Place) (known : List String) (strict : Bool)
    (assign : String → Place → α → Decode α) :
    List (Place × Place) → (seen : List String) → α → Decode (α × List String)
  | [], seen, a => pure (a, seen)
  | (key, value) :: rest, seen, a => do
      let name ← key.text "field identifier"
      if known.contains name then
        if seen.contains name then record.refuse (.duplicateField name)
        else
          let a ← assign name value a
          assignAll record known strict assign rest (name :: seen) a
      else if strict then record.refuse (.unknownField name known)
      else assignAll record known strict assign rest seen a

/-- Reads a record: a mapping from names of fields to their values. -/
def record {α : Type} (p : Place) (kind : String) (known required : List String) (strict : Bool)
    (assign : String → Place → α → Decode α) (start : α) : Decode α := do
  let entries ← p.entries ("struct " ++ kind)
  let (a, seen) ← p.assignAll known strict assign entries [] start
  match required.find? fun name => !seen.contains name with
  | some name => p.refuse (.missingField name)
  | none => pure a

/-! ## Values of any kind -/

/-- Reads a scalar as a value of any kind. Local tags and integers of more than 64 bits have no place in
such a value. -/
def checkScalar (p : Place) (s : Scalar) : Decode Unit :=
  if isLocal s.tag then p.refuse .localTag
  else
    match s.resolve with
    | .error m => p.refuse (.mismatch m)
    | .ok (.wide n) => p.refuse (.mismatch (.kind (.wide n) "any value"))
    | .ok _ => pure ()

/-- Reads a value of any kind in which containers are nested `depth` deep at most. -/
def checkAny : (depth : Nat) → Place → Decode Unit
  | 0, p => do
      let p ← p.follow
      match p.node with
      | .scalar s => p.checkScalar s
      | .sequence tag _ | .mapping tag _ =>
          if isLocal tag then p.refuse .localTag else throw .endless
      | .alias _ => throw .endless
  | depth + 1, p => do
      let p ← p.follow
      match p.node with
      | .scalar s => p.checkScalar s
      | .sequence tag items =>
          if isLocal tag then p.refuse .localTag
          else
            items.zipIdx.forM fun (n, i) =>
              checkAny depth { p with node := n, path := .item i :: p.path }
      | .mapping tag entries =>
          if isLocal tag then p.refuse .localTag
          else
            entries.forM fun (k, v) => do
              checkAny depth { p with node := k }
              checkAny depth { p with node := v, path := stepOf k :: p.path }
      | .alias _ => throw .endless

/-- Reads a value of any kind that `outer` containers are around, and gives the place where it stands.
Containers are nested 128 deep at most. -/
def anyValue (p : Place) (outer : Nat) : Decode Place := do
  let p ← p.follow
  checkAny (128 - outer) p
  pure p

/-- The text of a scalar is read as written, whatever the scalar stands for. -/
theorem text_scalar (p : Place) (s : Scalar) (expected : String) (h : p.node = .scalar s) :
    p.text expected = pure s.text := by
  simp [text, follow, h]

end Place

/-- The root of a document. -/
def Document.place (d : Document) : Place :=
  ⟨d, d.root.getD (.nothing none), []⟩

/-- Reads the only document of a text. Aliases are followed a hundred times the size of the document at
most. -/
def read {α : Type} (decode : Place → Decode α) (text : String) : Except ReadError α :=
  match Document.ofText? text with
  | some d => (decode d.place).run' (100 * d.size)
  | none => .error .illFormed

end Probe.Yaml
