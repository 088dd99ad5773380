import Probe.Yaml.Node
import Probe.Yaml.Token.Lexer

/-!
# Composing documents

A document is composed from tokens. Where a node may stand but none does, there is an empty plain
scalar. An anchor has the number of names known when it is defined, so that a name defined again may
share its number with the next one; of nodes with one number the latest counts.
-/

namespace Probe.Yaml

/-- The state between two nodes. -/
structure Composer where
  tokens : List Token
  /-- What tag handles stand for. -/
  handles : List (String × Tag)
  /-- The numbers of the names of anchors. -/
  names : List (String × Nat)
  /-- The numbers of the nodes with anchors, the latest first. -/
  numbers : List Nat
  /-- The nodes with anchors that are complete, with the count of those that started before. -/
  complete : List (Nat × Node)

/-- A step of composing; it fails on tokens in a wrong order. -/
abbrev Compose := StateT Composer Option

namespace Compose

/-- Looks at the next token. -/
def peek : Compose (Option Token) := do
  pure (← get).tokens.head?

/-- Drops the next token. -/
def skip : Compose Unit :=
  modify fun c => { c with tokens := c.tokens.drop 1 }

/-- Drops the next token if it is `t`, and tells whether it was. -/
def accept (t : Token) : Compose Bool := do
  if (← peek) == some t then
    skip
    pure true
  else pure false

/-- Drops the next token, which has to be `t`. -/
def expect (t : Token) : Compose Unit := do
  if ← accept t then pure () else failure

/-- Whether the next token is one of some tokens. -/
def atOneOf (ts : List Token) : Compose Bool := do
  pure (((← peek).map ts.contains).getD false)

/-- The full form of a tag. -/
def resolveTag (t : TagToken) : Compose Tag := do
  if t.handle = "" then pure t.suffix
  else
    match (← get).handles.lookup t.handle with
    | some lead => pure (lead ++ t.suffix)
    | none => failure

/-- Reads an anchor, if one is next. -/
def anchor? : Compose (Option String) := do
  match ← peek with
  | some (.anchor name) =>
      skip
      pure (some name)
  | _ => pure none

/-- Reads a tag, if one is next. -/
def tag? : Compose (Option Tag) := do
  match ← peek with
  | some (.tag t) =>
      skip
      pure (some (← resolveTag t))
  | _ => pure none

/-- Reads an anchor and a tag in any order. -/
def properties : Compose (Option String × Option Tag) := do
  match ← anchor? with
  | some name => pure (some name, ← tag?)
  | none =>
      match ← tag? with
      | some tag => pure (← anchor?, some tag)
      | none => pure (none, none)

/-- Numbers a node that has an anchor, and counts it. -/
def begin (name : String) : Compose Nat := do
  let c ← get
  let number := c.names.length
  let names :=
    if (c.names.lookup name).isSome then
      c.names.map fun (n, k) => if n = name then (n, number) else (n, k)
    else c.names ++ [(name, number)]
  set { c with names, numbers := number :: c.numbers }
  pure c.numbers.length

/-- Keeps a complete node that has an anchor. -/
def finish (started : Nat) (n : Node) : Compose Unit :=
  modify fun c => { c with complete := (started, n) :: c.complete }

/-- The node where nothing is written, which takes an anchor or a tag. -/
def nothing (tag : Option Tag) (optional : Bool) : Compose Node :=
  if optional then pure (.nothing tag) else failure

mutual

/-- Composes a node. In a block it may be a block collection; a sequence that is the value of a
mapping need not be indented. -/
def node : (fuel : Nat) → (block indentless : Bool) → Compose Node
  | 0, _, _ => failure
  | fuel + 1, block, indentless => do
      match ← peek with
      | some (.alias name) =>
          skip
          match (← get).names.lookup name with
          | some number => pure (.alias number)
          | none => failure
      | _ =>
          let (anchor, tag) ← properties
          -- The name is known before the content, so that an alias inside may lead back here.
          let started ← anchor.mapM begin
          let n ← content fuel block indentless tag (anchor.isSome || tag.isSome)
          if let some k := started then finish k n
          pure n

/-- Composes a node after its anchor and its tag. -/
def content : (fuel : Nat) → (block indentless : Bool) → Option Tag → (optional : Bool) → Compose Node
  | 0, _, _, _, _ => failure
  | fuel + 1, block, indentless, tag, optional => do
      let next ← peek
      if next == some .entry && indentless then
        pure (.sequence tag (← indentlessItems fuel))
      else
        match next with
        | some (.scalar style text) =>
            skip
            pure (.scalar ⟨style, tag, text⟩)
        | some .flowSequence =>
            skip
            pure (.sequence tag (← flowItems fuel true))
        | some .flowMapping =>
            skip
            pure (.mapping tag (← flowEntries fuel true))
        | some .blockSequence =>
            if block then
              skip
              pure (.sequence tag (← blockItems fuel))
            else nothing tag optional
        | some .blockMapping =>
            if block then
              skip
              pure (.mapping tag (← blockEntries fuel))
            else nothing tag optional
        | _ => nothing tag optional

/-- Composes a node unless the next token ends its place. -/
def nodeUnless : (fuel : Nat) → (ends : List Token) → (block indentless : Bool) → Compose Node
  | 0, _, _, _ => failure
  | fuel + 1, ends, block, indentless => do
      if ← atOneOf ends then pure (.nothing none) else node fuel block indentless

/-- Composes the items of a block sequence. -/
def blockItems : (fuel : Nat) → Compose (List Node)
  | 0 => failure
  | fuel + 1 => do
      if ← accept .entry then
        let n ← nodeUnless fuel [.entry, .blockEnd] true false
        pure (n :: (← blockItems fuel))
      else
        expect .blockEnd
        pure []

/-- Composes the items of a sequence that is not indented. -/
def indentlessItems : (fuel : Nat) → Compose (List Node)
  | 0 => failure
  | fuel + 1 => do
      if ← accept .entry then
        let n ← nodeUnless fuel [.entry, .key, .value, .blockEnd] true false
        pure (n :: (← indentlessItems fuel))
      else pure []

/-- Composes the entries of a block mapping. -/
def blockEntries : (fuel : Nat) → Compose (List (Node × Node))
  | 0 => failure
  | fuel + 1 => do
      if ← accept .key then
        let k ← nodeUnless fuel [.key, .value, .blockEnd] true true
        let v ← blockValue fuel
        pure ((k, v) :: (← blockEntries fuel))
      else
        expect .blockEnd
        pure []

/-- Composes the value of an entry of a block mapping. -/
def blockValue : (fuel : Nat) → Compose Node
  | 0 => failure
  | fuel + 1 => do
      if ← accept .value then nodeUnless fuel [.key, .value, .blockEnd] true true
      else pure (.nothing none)

/-- Composes the items of a flow sequence. A comma stands between two items. -/
def flowItems : (fuel : Nat) → (first : Bool) → Compose (List Node)
  | 0, _ => failure
  | fuel + 1, first => do
      if ← accept .flowSequenceEnd then pure []
      else
        if !first then expect .comma
        if ← accept .key then
          let entry ← flowPair fuel
          pure (.mapping none [entry] :: (← flowItems fuel false))
        else if ← accept .flowSequenceEnd then pure []
        else
          let n ← node fuel false false
          pure (n :: (← flowItems fuel false))

/-- Composes the entry of a mapping that is an item of a flow sequence. Where its key is missing, the
next token belongs to the key. -/
def flowPair : (fuel : Nat) → Compose (Node × Node)
  | 0 => failure
  | fuel + 1 => do
      let k ←
        if ← atOneOf [.value, .comma, .flowSequenceEnd] then do
          -- Whatever stands in the place of the key is lost.
          skip
          pure (Node.nothing none)
        else node fuel false false
      pure (k, ← flowValue fuel .flowSequenceEnd)

/-- Composes a value in a flow collection that ends with the token `close`. -/
def flowValue : (fuel : Nat) → (close : Token) → Compose Node
  | 0, _ => failure
  | fuel + 1, close => do
      if ← accept .value then nodeUnless fuel [.comma, close] false false
      else pure (.nothing none)

/-- Composes the entries of a flow mapping. A comma stands between two entries. -/
def flowEntries : (fuel : Nat) → (first : Bool) → Compose (List (Node × Node))
  | 0, _ => failure
  | fuel + 1, first => do
      if ← accept .flowMappingEnd then pure []
      else
        if !first then expect .comma
        if ← accept .key then
          let k ← nodeUnless fuel [.value, .comma, .flowMappingEnd] false false
          let v ← flowValue fuel .flowMappingEnd
          pure ((k, v) :: (← flowEntries fuel false))
        else if ← accept .flowMappingEnd then pure []
        else
          let k ← node fuel false false
          pure ((k, .nothing none) :: (← flowEntries fuel false))

end

/-! ## Documents -/

/-- Reads the directives in front of a document: a version, which is 1.1 or 1.2, and handles, each once
at most. -/
def directives : (fuel : Nat) → (versioned : Bool) → Compose Bool
  | 0, _ => failure
  | fuel + 1, versioned => do
      match ← peek with
      | some (.version major minor) =>
          if versioned || major != 1 || !(minor == 1 || minor == 2) then failure
          else
            skip
            discard (directives fuel true)
            pure true
      | some (.tagHandle handle lead) =>
          let c ← get
          if (c.handles.lookup handle).isSome then failure
          else
            set { c with handles := c.handles ++ [(handle, lead)] }
            skip
            discard (directives fuel versioned)
            pure true
      | _ => pure false

/-- Drops the markers of ends of documents. -/
def documentEnds : (fuel : Nat) → Compose Unit
  | 0 => pure ()
  | fuel + 1 => do
      if ← accept .documentEnd then documentEnds fuel

/-- Composes the only document of a text. -/
def document (fuel : Nat) : Compose (Option Node) := do
  let directed ← directives fuel false
  modify fun c => { c with handles := c.handles ++ [("!", .ofString "!"), ("!!", coreTag "")] }
  let next ← peek
  if next.isNone && !directed then pure none
  else
    let explicit ← accept .documentStart
    if directed && !explicit then failure
    else
      let next ← peek
      let bare := match next with
        | none | some .documentStart | some .documentEnd | some (.version _ _)
        | some (.tagHandle _ _) => true
        | _ => false
      let root ← if explicit && bare then pure (Node.nothing none) else node fuel true false
      documentEnds fuel
      -- What is left would be a second document.
      if (← peek).isSome then failure else pure (some root)

end Compose

/-- Composes the only document of a list of tokens. -/
def Document.ofTokens? (tokens : List Token) : Option Document := do
  let (root, c) ← Compose.document (5 * tokens.length + 20) ⟨tokens, [], [], [], []⟩
  let numbered := c.numbers.zip (List.range c.numbers.length).reverse
  some
    { root
      anchored := numbered.filterMap fun (number, started) =>
        (c.complete.lookup started).map fun n => (number, n) }

/-- The only document of a text; none if the text is ill-formed or holds several. -/
def Document.ofText? (text : String) : Option Document := do
  Document.ofTokens? (← Token.ofText? text)

end Probe.Yaml
