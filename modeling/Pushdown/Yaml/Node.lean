/-
**YAML documents.**

A document is a tree of scalars, sequences and mappings.  An alias stands for the node that carries
its anchor; inside that node itself it stands for no finite tree.

Main definitions:

* `Yaml.Node` — a tree;
* `Yaml.Builder` — what is known while tokens are read;
* `Yaml.Node.parse?` — the document of a text.
-/

import Pushdown.Yaml.Token

set_option autoImplicit false

namespace Pushdown

namespace Yaml

/-- A tree. -/
inductive Node where
  /-- A scalar, its tag, whether it stands without quotes, and its text. -/
  | scalar (tag : Option Text) (isPlain : Bool) (text : Text)
  | sequence (items : List Node)
  | mapping (entries : List (Node × Node))
  /-- An alias inside the node that it stands for. -/
  | cycle

/-- What is known while tokens are read: the anchors, latest first, with the number of the node they
stand at, the nodes that are complete, and the tokens that follow. -/
structure Builder where
  anchors : List (Text × Nat)
  nodes : List (Nat × Node)
  handles : List (Text × Text)
  tokens : List Token

/-- A step of the building: a value, and what is known then; nothing if the tokens do not fit. -/
abbrev Build := StateT Builder Option

namespace Build

/-- The next token, left in place. -/
def peek : Build (Option Token) := return (← get).tokens.head?

/-- Passes over the next token. -/
def skip : Build Unit := modify fun b => { b with tokens := b.tokens.tail }

/-- Takes a token if it is there. -/
def take? (token : Token) : Build Bool := do
  if (← peek) = some token then
    skip
    return true
  else return false

/-- Takes a token. -/
def take (token : Token) : Build Unit := do
  if ← take? token then return () else failure

/-- Whether the next token is one of some. -/
def sees (tokens : List Token) : Build Bool := return ((← peek).map tokens.contains).getD false

/-- A scalar that is not written. -/
def empty : Node := .scalar none true []

/-! ### Anchors and tags -/

/-- The node of an alias. -/
def aliased (name : Text) : Build Node := do
  let b ← get
  match b.anchors.find? fun a => a.1 == name with
  | none => failure
  | some (_, number) =>
      match b.nodes.find? fun n => n.1 == number with
      | some (_, node) => return node
      -- The anchor is known but its node is not complete: the alias stands inside of it.
      | none => return .cycle

/-- The anchor in front of a node, if it has one, as the number of the node. -/
def anchor? : Build (Option Nat) := do
  match ← peek with
  | some (.anchor name) =>
      skip
      let b ← get
      let number := b.anchors.length
      set { b with anchors := (name, number) :: b.anchors }
      return some number
  | _ => return none

/-- The whole text of a tag. -/
def resolveTag (handle suffix : Text) : Build Text := do
  if handle.isEmpty then return suffix
  else
    match (← get).handles.find? fun h => h.1 == handle with
    | some (_, lead) => return lead ++ suffix
    | none => failure

/-- The tag in front of a node, if it has one. -/
def tag? : Build (Option Text) := do
  match ← peek with
  | some (.tag handle suffix) =>
      skip
      return some (← resolveTag handle suffix)
  | _ => return none

/-- The node, under the number of its anchor. -/
def record (anchor : Option Nat) (node : Node) : Build Node := do
  match anchor with
  | none => return node
  | some number =>
      modify fun b => { b with nodes := (number, node) :: b.nodes }
      return node

/-! ### Collections -/

/-- The value of a reader of nodes, or an empty scalar in front of one of some tokens. -/
def nodeUnless (stops : List Token) (p : Build Node) : Build Node := do
  if ← sees stops then return empty else p

/-- The elements of a block sequence behind its start, up to and with its end. -/
def blockItems (node : Build Node) : Nat → Build (List Node)
  | 0 => failure
  | fuel + 1 => do
      if ← take? .blockEntry then
        let item ← nodeUnless [.blockEntry, .blockEnd] node
        return item :: (← blockItems node fuel)
      else
        take .blockEnd
        return []

/-- The elements of a block sequence that is no deeper than the mapping around it. -/
def plainItems (node : Build Node) : Nat → Build (List Node)
  | 0 => failure
  | fuel + 1 => do
      if ← take? .blockEntry then
        let item ← nodeUnless [.blockEntry, .key, .value, .blockEnd] node
        return item :: (← plainItems node fuel)
      else return []

/-- The value of an entry of a block mapping. -/
def blockValue (node : Build Node) : Build Node := do
  if ← take? .value then nodeUnless [.key, .value, .blockEnd] node else return empty

/-- The entries of a block mapping behind its start, up to and with its end. -/
def blockEntries (node : Build Node) : Nat → Build (List (Node × Node))
  | 0 => failure
  | fuel + 1 => do
      if ← take? .key then
        let key ← nodeUnless [.key, .value, .blockEnd] node
        let value ← blockValue node
        return (key, value) :: (← blockEntries node fuel)
      else
        take .blockEnd
        return []

/-- The value of an entry of a flow collection that ends with a token. -/
def flowValue (close : Token) (node : Build Node) : Build Node := do
  if ← take? .value then nodeUnless [.flowEntry, close] node else return empty

/-- The key and the value of an entry behind the sign of a key. -/
def flowPair (close : Token) (node : Build Node) : Build (Node × Node) := do
  let key ← nodeUnless [.value, .flowEntry, close] node
  return (key, ← flowValue close node)

/-- The elements of a flow sequence behind its start, up to and with its end. -/
def flowItems (node : Build Node) : Nat → Bool → Build (List Node)
  | 0, _ => failure
  | fuel + 1, isFirst => do
      if ← take? .flowSequenceEnd then return []
      else
        if !isFirst then take .flowEntry
        if ← take? .key then
          let entry ← flowPair .flowSequenceEnd node
          return .mapping [entry] :: (← flowItems node fuel false)
        else if ← take? .flowSequenceEnd then return []
        else
          let item ← node
          return item :: (← flowItems node fuel false)

/-- The entries of a flow mapping behind its start, up to and with its end. -/
def flowEntries (node : Build Node) : Nat → Bool → Build (List (Node × Node))
  | 0, _ => failure
  | fuel + 1, isFirst => do
      if ← take? .flowMappingEnd then return []
      else
        if !isFirst then take .flowEntry
        if ← take? .key then
          let entry ← flowPair .flowMappingEnd node
          return entry :: (← flowEntries node fuel false)
        else if ← take? .flowMappingEnd then return []
        else
          let key ← node
          return (key, empty) :: (← flowEntries node fuel false)

/-- A node.  `inBlock` tells whether block collections may start, and `besideKey` whether a block
sequence may start that is no deeper than the mapping around it; `depth` bounds the nesting. -/
def node : Nat → Bool → Bool → Build Node
  | 0, _, _ => failure
  | depth + 1, inBlock, besideKey => do
      let fuel := (← get).tokens.length + 1
      match ← peek with
      | some (.reference name) =>
          skip
          aliased name
      | _ =>
          -- Anchor and tag may come in either order.
          let first ← anchor?
          let tag ← tag?
          let anchor ← if first.isSome then pure first else anchor?
          let token ← peek
          if besideKey && token == some .blockEntry then
            record anchor (.sequence (← plainItems (node depth true false) fuel))
          else
            match token with
            | some (.scalar isPlain text) =>
                skip
                record anchor (.scalar tag isPlain text)
            | some .flowSequenceStart =>
                skip
                record anchor (.sequence (← flowItems (node depth false false) fuel true))
            | some .flowMappingStart =>
                skip
                record anchor (.mapping (← flowEntries (node depth false false) fuel true))
            | _ =>
                if inBlock && token == some .blockSequenceStart then
                  skip
                  record anchor (.sequence (← blockItems (node depth true false) fuel))
                else if inBlock && token == some .blockMappingStart then
                  skip
                  record anchor (.mapping (← blockEntries (node depth true true) fuel))
                else if anchor.isSome || tag.isSome then record anchor (.scalar tag true [])
                else failure

/-! ### Documents -/

/-- The handles of tags that are always known. -/
def knownHandles : List (Text × Text) :=
  [(['!'], ['!']), ("!!".toList, "tag:yaml.org,2002:".toList)]

/-- The directives of a document; each may be given once. -/
def directives : Nat → Bool → List (Text × Text) → Build Unit
  | 0, _, _ => failure
  | fuel + 1, hasVersion, handles => do
      match ← peek with
      | some (.versionDirective major minor) =>
          skip
          if hasVersion || major != ['1'] || !(minor == ['1'] || minor == ['2']) then failure
          else directives fuel true handles
      | some (.tagDirective handle lead) =>
          skip
          if handles.any fun h => h.1 == handle then failure
          else directives fuel hasVersion ((handle, lead) :: handles)
      | _ => modify fun b => { b with handles := handles ++ knownHandles }

/-- Whether a token starts a document of its own. -/
def startsDocument : Option Token → Bool
  | some (.versionDirective _ _) => true
  | some (.tagDirective _ _) => true
  | some .documentStart => true
  | _ => false

/-- The content of a document; an explicit one may be empty. -/
def content (fuel : Nat) : Build Node := do
  if startsDocument (← peek) then
    directives fuel false []
    take .documentStart
    let token ← peek
    if startsDocument token || token == some .documentEnd || token.isNone then return empty
    else node fuel true false
  else node fuel true false

/-- Passes over the ends of a document. -/
def documentEnds : Nat → Build Unit
  | 0 => return ()
  | fuel + 1 => do
      if ← take? .documentEnd then documentEnds fuel else return ()

/-- The only document of a text; nothing stands for a text without one. -/
def single (fuel : Nat) : Build (Option Node) := do
  match ← peek with
  | none => return none
  | some _ =>
      let root ← content fuel
      documentEnds fuel
      -- A second document has no place to go.
      if (← peek).isSome then failure else return some root

end Build

/-- The document of a text: nothing at all if the text is no YAML or holds several documents, and no
node if it holds none. -/
def Node.parse? (text : Text) : Option (Option Node) :=
  match tokens? text with
  | none => none
  | some tokens =>
      ((Build.single (tokens.length + 1)).run ⟨[], [], Build.knownHandles, tokens⟩).map Prod.fst

end Yaml

end Pushdown
