/-
**From tokens to nodes.**

The tokens of a document are read from left to right, one look-ahead token deciding what comes.
Where a key, a value or an item is not written, the missing node is read; a node with an anchor or
a tag and nothing else is an empty plain scalar.  A text has to hold exactly one document.

Main definitions:

* `CypherQuery.Yaml.NodeReader` — the state of reading, with the anchors so far;
* `CypherQuery.Yaml.NodeReader.node` — the next node;
* `CypherQuery.Yaml.Node.ofText?` — **the document of a text**.
-/

import CypherQuery.Yaml.Node
import CypherQuery.Yaml.Token.Reading

set_option autoImplicit false

namespace CypherQuery.Yaml

/-- The state of reading. -/
structure NodeReader where
  /-- The tokens that are left. -/
  tokens : List Token
  /-- How many anchors there were. -/
  anchorCount : Nat
  /-- The numbers of the anchors, by name; the latest first. -/
  anchors : List (String × Nat)
  /-- The nodes of the anchors, by number, once they are read. -/
  nodes : List (Nat × Node)

/-- A step of reading: a result and the state after it, unless the tokens do not fit. -/
abbrev NodeReader.Step (α : Type) : Type := StateT NodeReader Option α

namespace NodeReader

/-- The next token, which is left where it is. -/
def peek : Step (Option Token) := do
  return (← get).tokens.head?

/-- Skips a token. -/
def skip : Step Unit := modify fun r => { r with tokens := r.tokens.tail }

/-- Whether the next token is one of the given ones. -/
def nextIsIn (tokens : List Token) : Step Bool := do
  match ← peek with
  | some t => return tokens.contains t
  | none => return false

/-- Gives a name to the node that follows; the number of the anchor is returned. -/
def addAnchor (name : String) : Step Nat := do
  let r ← get
  set { r with anchorCount := r.anchorCount + 1, anchors := (name, r.anchorCount) :: r.anchors }
  return r.anchorCount

/-- Remembers the node of an anchor. -/
def bindAnchor (anchor : Option Nat) (node : Node) : Step Node := do
  match anchor with
  | none => return node
  | some n => do
      modify fun r => { r with nodes := (n, node) :: r.nodes }
      return node

/-- The node that an alias stands for. -/
def resolveReference (name : String) : Step Node := do
  let r ← get
  match r.anchors.lookup name with
  | none => failure
  | some n =>
      match r.nodes.lookup n with
      | some node => return .reference node
      | none => return .selfReference

/-- The anchor and the tag before a node, in either order. -/
def properties : Step (Option Nat × Option Tag) := do
  match ← peek with
  | some (.anchor name) => do
      skip
      let n ← addAnchor name
      match ← peek with
      | some (.tag t) => do
          skip
          return (some n, some t)
      | _ => return (some n, none)
  | some (.tag t) => do
      skip
      match ← peek with
      | some (.anchor name) => do
          skip
          let n ← addAnchor name
          return (some n, some t)
      | _ => return (none, some t)
  | _ => return (none, none)

/-! ### Nodes

The first argument bounds the depth of the calls. -/

mutual

/-- The next node.  The two conditions say whether block collections may start here, and whether a
hyphen may, without an indentation of its own. -/
def node : Nat → Bool → Bool → Step Node
  | 0, _, _ => failure
  | bound + 1, block, hyphen => do
      match ← peek with
      | some (.reference name) => do
          skip
          resolveReference name
      | _ => do
          let (anchor, tag) ← properties
          let content ← content bound block hyphen (anchor.isSome || tag.isSome) tag
          bindAnchor anchor content

/-- A node without its anchor and its tag. -/
def content : Nat → Bool → Bool → Bool → Option Tag → Step Node
  | 0, _, _, _, _ => failure
  | bound + 1, block, hyphen, mayBeEmpty, tag => do
      match ← peek with
      | some (.scalar text isPlain) => do
          skip
          return .scalar ⟨text, isPlain, tag⟩
      | some .flowSequenceStart => do
          skip
          return .sequence (← flowItems bound true)
      | some .flowMappingStart => do
          skip
          return .mapping (← flowEntries bound true)
      | some .blockEntry =>
          if hyphen then return .sequence (← hyphenItems bound)
          else if mayBeEmpty then return .scalar ⟨"", true, tag⟩
          else failure
      | some .blockSequenceStart =>
          if block then do
            skip
            return .sequence (← blockItems bound)
          else if mayBeEmpty then return .scalar ⟨"", true, tag⟩
          else failure
      | some .blockMappingStart =>
          if block then do
            skip
            return .mapping (← blockEntries bound)
          else if mayBeEmpty then return .scalar ⟨"", true, tag⟩
          else failure
      | _ => if mayBeEmpty then return .scalar ⟨"", true, tag⟩ else failure

/-- A node, or the missing node before one of the given tokens. -/
def nodeUnless : Nat → List Token → Bool → Bool → Step Node
  | 0, _, _, _ => failure
  | bound + 1, ends, block, hyphen => do
      if ← nextIsIn ends then return .missing else node bound block hyphen

/-- The value after a key, or the missing node. -/
def valueUnless : Nat → List Token → Bool → Step Node
  | 0, _, _ => failure
  | bound + 1, ends, block => do
      match ← peek with
      | some .value => do
          skip
          nodeUnless bound ends block block
      | _ => return .missing

/-- The items of a sequence that has an indentation of its own. -/
def blockItems : Nat → Step (List Node)
  | 0 => failure
  | bound + 1 => do
      match ← peek with
      | some .blockEnd => do
          skip
          return []
      | some .blockEntry => do
          skip
          let item ← nodeUnless bound [.blockEntry, .blockEnd] true false
          return item :: (← blockItems bound)
      | _ => failure

/-- The items of a sequence that has no indentation of its own. -/
def hyphenItems : Nat → Step (List Node)
  | 0 => failure
  | bound + 1 => do
      match ← peek with
      | some .blockEntry => do
          skip
          let item ← nodeUnless bound [.blockEntry, .key, .value, .blockEnd] true false
          return item :: (← hyphenItems bound)
      | _ => return []

/-- The entries of a mapping by indentation. -/
def blockEntries : Nat → Step (List (Node × Node))
  | 0 => failure
  | bound + 1 => do
      match ← peek with
      | some .blockEnd => do
          skip
          return []
      | some .key => do
          skip
          let key ← nodeUnless bound [.key, .value, .blockEnd] true true
          let value ← valueUnless bound [.key, .value, .blockEnd] true
          return (key, value) :: (← blockEntries bound)
      | some .value => do
          let value ← valueUnless bound [.key, .value, .blockEnd] true
          return (.missing, value) :: (← blockEntries bound)
      | _ => failure

/-- The entries of a mapping in braces.  Before every entry but the first there is a comma, and
after the last one there may be. -/
def flowEntries : Nat → Bool → Step (List (Node × Node))
  | 0, _ => failure
  | bound + 1, isFirst => do
      if ← nextIsIn [.flowMappingEnd] then do
        skip
        return []
      else
        if !isFirst then
          if ← nextIsIn [.flowEntry] then skip else failure
        match ← peek with
        | some .flowMappingEnd => do
            skip
            return []
        | some .key => do
            skip
            let key ← nodeUnless bound [.value, .flowEntry, .flowMappingEnd] false false
            let value ← valueUnless bound [.flowEntry, .flowMappingEnd] false
            return (key, value) :: (← flowEntries bound false)
        | some .value => do
            let value ← valueUnless bound [.flowEntry, .flowMappingEnd] false
            return (.missing, value) :: (← flowEntries bound false)
        | _ => do
            let key ← node bound false false
            return (key, .missing) :: (← flowEntries bound false)

/-- The items of a sequence in brackets.  Before every item but the first there is a comma, and
after the last one there may be. -/
def flowItems : Nat → Bool → Step (List Node)
  | 0, _ => failure
  | bound + 1, isFirst => do
      if ← nextIsIn [.flowSequenceEnd] then do
        skip
        return []
      else
        if !isFirst then
          if ← nextIsIn [.flowEntry] then skip else failure
        match ← peek with
        | some .flowSequenceEnd => do
            skip
            return []
        | some .key => do
            skip
            let entry ← flowPair bound
            return .mapping [entry] :: (← flowItems bound false)
        | _ => do
            let item ← node bound false false
            return item :: (← flowItems bound false)

/-- A single entry among the items of a sequence in brackets.  The token that stands in place of a
missing key is skipped. -/
def flowPair : Nat → Step (Node × Node)
  | 0 => failure
  | bound + 1 => do
      if ← nextIsIn [.value, .flowEntry, .flowSequenceEnd] then do
        skip
        let value ← valueUnless bound [.flowEntry, .flowSequenceEnd] false
        return (.missing, value)
      else
        let key ← node bound false false
        let value ← valueUnless bound [.flowEntry, .flowSequenceEnd] false
        return (key, value)

end

/-! ### Documents -/

/-- Skips tokens while they are the given one. -/
def skipAll (t : Token) : Step Unit :=
  modify fun r => { r with tokens := r.tokens.dropWhile (· == t) }

/-- The node of the first document of the tokens. -/
def document (bound : Nat) : Step Node := do
  let isExplicit ← nextIsIn [.directive, .documentStart]
  if isExplicit then do
    skipAll .directive
    if ← nextIsIn [.documentStart] then do
      skip
      match ← peek with
      | none => return .missing
      | some t =>
          if [Token.directive, .documentStart, .documentEnd].contains t then return .missing
          else node bound true false
    else failure
  else node bound true false

end NodeReader

/-- How deep the calls can be for a list of tokens: each call reads a token or is followed by a
call that does. -/
def NodeReader.depthBound (tokens : List Token) : Nat := 4 * tokens.length + 4

/-- The document of a list of tokens.  After it nothing but marks of its end may follow. -/
def Node.ofTokens? (tokens : List Token) : Option Node :=
  if tokens.isEmpty then none
  else do
    let reading := NodeReader.document (NodeReader.depthBound tokens)
    let (node, r) ← reading.run ⟨tokens, 0, [], []⟩
    if r.tokens.all (· == .documentEnd) then some node else none

/-- **The document of a text.** -/
def Node.ofText? (text : String) : Option Node := (Token.ofText? text).bind Node.ofTokens?

end CypherQuery.Yaml
