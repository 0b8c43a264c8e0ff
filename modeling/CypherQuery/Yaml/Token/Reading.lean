/-
**From text to tokens.**

Tokens are read from left to right.  In block context the indentation opens and closes
collections; the columns of the open ones are kept on a stack.  What looks like a plain node may
turn out to be a key when a colon follows it: so its place is remembered, and the token for a key
is put in front of it then.  Such a key must be on one line and at most 1024 characters before its
colon.

Main definitions:

* `CypherQuery.Yaml.KeyPlace`, `CypherQuery.Yaml.Scanner` — the state of reading;
* `CypherQuery.Yaml.Scanner.next` — one token more;
* `CypherQuery.Yaml.Token.ofText?` — **the tokens of a text**.
-/

import CypherQuery.Yaml.Scalar.Block
import CypherQuery.Yaml.Scalar.Plain
import CypherQuery.Yaml.Scalar.Quoted
import CypherQuery.Yaml.Token.Properties

set_option autoImplicit false

namespace CypherQuery.Yaml

/-- The place of a node that may turn out to be a key. -/
structure KeyPlace where
  /-- How many tokens are before it. -/
  tokensBefore : Nat
  /-- Where it starts. -/
  position : Position
  /-- Whether it has to be a key. -/
  isRequired : Bool
  deriving DecidableEq, Repr

/-- The state of reading. -/
structure Scanner where
  /-- The text that is left. -/
  cursor : Cursor
  /-- The tokens so far. -/
  tokens : List Token
  /-- Whether a key may start here. -/
  keyAllowed : Bool
  /-- What may turn out to be a key, in each of the open flow collections and outside them; the
  innermost first. -/
  keys : List (Option KeyPlace)
  /-- The column of the innermost block collection; −1 outside them. -/
  indent : Int
  /-- The columns of the others, the innermost first. -/
  outerIndents : List Int
  /-- How many flow collections are open. -/
  flowLevel : Nat
  /-- Where a colon directly after a quoted scalar may stand. -/
  adjacentColonAt : Nat

namespace Scanner

/-- The state at the start of a text. -/
def start (text : List Char) : Scanner :=
  ⟨⟨text, .start⟩, [], true, [none], -1, [], 0, 0⟩

/-- How many flow collections may be open at once. -/
def flowLimit : Nat := 255

/-- How many characters may be between the start of a key and its colon. -/
def keyLimit : Nat := 1024

/-- Whether reading is within a flow collection. -/
def inFlow (s : Scanner) : Bool := s.flowLevel != 0

/-- The state with a token more. -/
def emit (s : Scanner) (t : Token) : Scanner := { s with tokens := s.tokens ++ [t] }

/-- The state with a token put behind the first `n` ones. -/
def emitAt (s : Scanner) (n : Nat) (t : Token) : Scanner :=
  { s with tokens := s.tokens.take n ++ t :: s.tokens.drop n }

/-- The state some characters further on. -/
def advance (s : Scanner) (n : Nat) : Scanner := { s with cursor := s.cursor.skip n }

/-- The state in which a key may start, or may not. -/
def allowKey (s : Scanner) (allowed : Bool) : Scanner := { s with keyAllowed := allowed }

/-! ### Blanks and comments -/

/-- Skips blanks, line breaks and comments.  In block context a tab must not stand where a key may
start, and after a line break a key may start. -/
def skipBlanksFrom (inFlow inComment keyAllowed : Bool) : List Char → Position → Bool × Cursor
  | [], p => (keyAllowed, ⟨[], p⟩)
  | c :: rest, p =>
      if isBreak c then skipBlanksFrom inFlow false (keyAllowed || !inFlow) rest (p.after c)
      else if inComment then skipBlanksFrom inFlow true keyAllowed rest (p.after c)
      else if c == '#' then skipBlanksFrom inFlow true keyAllowed rest (p.after c)
      else if c == ' ' || (c == '\t' && (inFlow || !keyAllowed)) then
        skipBlanksFrom inFlow false keyAllowed rest (p.after c)
      else (keyAllowed, ⟨c :: rest, p⟩)

/-- The state after blanks, line breaks and comments. -/
def skipBlanks (s : Scanner) : Scanner :=
  let (keyAllowed, cursor) :=
    skipBlanksFrom s.inFlow false s.keyAllowed s.cursor.rest s.cursor.position
  { s with keyAllowed := keyAllowed, cursor := cursor }

/-! ### Keys -/

/-- Whether a colon at a place comes too late for a key. -/
def isStale (key : KeyPlace) (p : Position) : Bool :=
  key.position.line < p.line || key.position.index + keyLimit < p.index

/-- Gives up one key for which no colon can come any more; it must not be required. -/
def dropStale (p : Position) : Option KeyPlace → Option (Option KeyPlace)
  | none => some none
  | some key =>
      if isStale key p then if key.isRequired then none else some none else some (some key)

/-- Gives up the keys for which no colon can come any more. -/
def dropStaleKeys (s : Scanner) : Option Scanner := do
  let keys ← s.keys.mapM (dropStale s.cursor.position)
  return { s with keys := keys }

/-- The innermost place of a key. -/
def innermostKey (s : Scanner) : Option KeyPlace := s.keys.head?.join

/-- The state with another innermost place of a key. -/
def setKey (s : Scanner) (key : Option KeyPlace) : Scanner := { s with keys := key :: s.keys.tail }

/-- Gives up the innermost key; it must not be required. -/
def dropKey (s : Scanner) : Option Scanner :=
  match s.innermostKey with
  | some key => if key.isRequired then none else some (s.setKey none)
  | none => some s

/-- Remembers this place, if a key may start here. -/
def rememberKey (s : Scanner) : Option Scanner :=
  if s.keyAllowed then do
    let s ← s.dropKey
    let isRequired := s.inFlow && decide (s.indent = s.cursor.column)
    return s.setKey (some ⟨s.tokens.length, s.cursor.position, isRequired⟩)
  else some s

/-! ### Indentation -/

/-- Opens a block collection, if the column is to the right of the open ones.  Its token is put
behind the first `n` ones. -/
def openBlock (s : Scanner) (column n : Nat) (t : Token) : Scanner :=
  if !s.inFlow && decide (s.indent < column) then
    { s.emitAt n t with indent := column, outerIndents := s.indent :: s.outerIndents }
  else s

/-- Closes the block collections to the right of a column, of which the stack is given. -/
def closeFrom (s : Scanner) (column : Int) : List Int → Scanner
  | [] => s
  | outer :: rest =>
      if column < s.indent then
        closeFrom { s.emit .blockEnd with indent := outer, outerIndents := rest } column rest
      else s

/-- Closes the block collections to the right of a column. -/
def closeBlocks (s : Scanner) (column : Int) : Scanner :=
  if s.inFlow then s else s.closeFrom column s.outerIndents

/-! ### One token more -/

/-- A directive. -/
def directive (s : Scanner) : Option Scanner := do
  let s ← (s.closeBlocks (-1)).dropKey
  let cursor ← Directive.skip (s.cursor.skip 1)
  return ({ s with cursor := cursor }.allowKey false).emit .directive

/-- A mark between documents. -/
def documentMarker (s : Scanner) (t : Token) : Option Scanner := do
  let s ← (s.closeBlocks (-1)).dropKey
  return ((s.allowKey false).advance 3).emit t

/-- The start of a flow collection. -/
def openFlow (s : Scanner) (t : Token) : Option Scanner := do
  let s ← s.rememberKey
  if s.flowLevel = flowLimit then none
  else
    let s := { s with keys := none :: s.keys, flowLevel := s.flowLevel + 1 }
    return ((s.allowKey true).advance 1).emit t

/-- The end of a flow collection. -/
def closeFlow (s : Scanner) (t : Token) : Option Scanner := do
  let s ← s.dropKey
  let s := if s.inFlow then { s with keys := s.keys.tail, flowLevel := s.flowLevel - 1 } else s
  return ((s.allowKey false).advance 1).emit t

/-- A comma. -/
def flowEntry (s : Scanner) : Option Scanner := do
  let s ← s.dropKey
  return ((s.allowKey true).advance 1).emit .flowEntry

/-- A hyphen before an item. -/
def blockEntry (s : Scanner) : Option Scanner :=
  if s.inFlow || !s.keyAllowed then none
  else do
    let s ← (s.openBlock s.cursor.column s.tokens.length .blockSequenceStart).dropKey
    return ((s.allowKey true).advance 1).emit .blockEntry

/-- A question mark before a key. -/
def explicitKey (s : Scanner) : Option Scanner :=
  if !s.inFlow && !s.keyAllowed then none
  else do
    let s ← (s.openBlock s.cursor.column s.tokens.length .blockMappingStart).dropKey
    return ((s.allowKey !s.inFlow).advance 1).emit .key

/-- A colon before a value.  What is remembered as a key is one now. -/
def value (s : Scanner) : Option Scanner :=
  match s.innermostKey with
  | some key =>
      let s := (s.emitAt key.tokensBefore .key).openBlock key.position.column key.tokensBefore
        .blockMappingStart
      some ((((s.setKey none).allowKey false).advance 1).emit .value)
  | none =>
      if !s.inFlow && !s.keyAllowed then none
      else
        let s := s.openBlock s.cursor.column s.tokens.length .blockMappingStart
        some (((s.allowKey !s.inFlow).advance 1).emit .value)

/-- An anchor or an alias. -/
def nodeName (s : Scanner) (token : String → Token) : Option Scanner := do
  let s ← s.rememberKey
  let (name, cursor) ← NodeName.read (s.cursor.skip 1)
  return ({ s with cursor := cursor }.allowKey false).emit (token name)

/-- A tag. -/
def tag (s : Scanner) : Option Scanner := do
  let s ← s.rememberKey
  let (tag, cursor) ← Tag.read s.cursor
  return ({ s with cursor := cursor }.allowKey false).emit (.tag tag)

/-- A block scalar. -/
def blockScalar (s : Scanner) (literal : Bool) : Option Scanner := do
  let s ← s.rememberKey
  let (text, cursor) ← BlockScalar.read literal s.indent (s.cursor.skip 1)
  return ({ s with cursor := cursor }.allowKey true).emit (.scalar text false)

/-- A quoted scalar. -/
def quotedScalar (s : Scanner) (read : Cursor → Option QuotedScalar.Read) : Option Scanner := do
  let s ← s.rememberKey
  let (text, cursor) ← read (s.cursor.skip 1)
  let s := { s with cursor := cursor, adjacentColonAt := cursor.position.index }
  return (s.allowKey false).emit (.scalar text false)

/-- A plain scalar. -/
def plainScalar (s : Scanner) : Option Scanner := do
  let s ← s.rememberKey
  let found ← PlainScalar.read ⟨s.inFlow, s.indent + 1⟩ s.cursor
  return ({ s with cursor := found.rest }.allowKey found.endsLine).emit (.scalar found.text true)

/-- Whether a colon stands before a value, given what comes after it. -/
def isValueColon (s : Scanner) (rest : List Char) : Bool :=
  startsWithSpace rest ||
    (s.inFlow &&
      (startsWithFlowSign rest || s.cursor.position.index == s.adjacentColonAt))

/-- One token more, at a character and the text after it. -/
def nextAt (s : Scanner) (c : Char) (rest : List Char) : Option Scanner :=
  if s.cursor.column = 0 ∧ c = '%' then s.directive
  else if s.cursor.column = 0 ∧ isTriple '-' (c :: rest) then s.documentMarker .documentStart
  else if s.cursor.column = 0 ∧ isTriple '.' (c :: rest) then s.documentMarker .documentEnd
  else
    match c with
    | '[' => s.openFlow .flowSequenceStart
    | '\x7b' => s.openFlow .flowMappingStart
    | ']' => s.closeFlow .flowSequenceEnd
    | '\x7d' => s.closeFlow .flowMappingEnd
    | ',' => s.flowEntry
    | '-' => if startsWithSpace rest then s.blockEntry else s.plainScalar
    | '?' => if startsWithSpace rest then s.explicitKey else s.plainScalar
    | ':' => if s.isValueColon rest then s.value else s.plainScalar
    | '*' => s.nodeName .reference
    | '&' => s.nodeName .anchor
    | '!' => s.tag
    | '|' => if s.inFlow then s.plainScalar else s.blockScalar true
    | '>' => if s.inFlow then s.plainScalar else s.blockScalar false
    | '\'' => s.quotedScalar QuotedScalar.readSingle
    | '"' => s.quotedScalar QuotedScalar.readDouble
    | '%' => none
    | '@' => none
    | '\x60' => none
    | _ => s.plainScalar

/-- The state at the next token, with the block collections closed that end before it. -/
def settle (s : Scanner) : Option Scanner := do
  let s ← s.skipBlanks.dropStaleKeys
  return s.closeBlocks s.cursor.column

/-- The tokens at the end of a text: all block collections end. -/
def finish (s : Scanner) : Option (List Token) := do
  let s ← (s.closeBlocks (-1)).dropKey
  return s.tokens

/-- The tokens of the rest of a text, of at most `bound` steps. -/
def run : Nat → Scanner → Option (List Token)
  | 0, _ => none
  | bound + 1, s => do
      let s ← s.settle
      match s.cursor.rest with
      | [] => s.finish
      | c :: rest => do
          let s ← s.nextAt c rest
          run bound s

end Scanner

/-- **The tokens of a text**, up to the first null character.  Every step but the last reads a
character at least. -/
def Token.ofText? (text : String) : Option (List Token) :=
  let cs := text.toList.takeWhile (· != '\x00')
  (Scanner.start cs).run (cs.length + 1)

end CypherQuery.Yaml
