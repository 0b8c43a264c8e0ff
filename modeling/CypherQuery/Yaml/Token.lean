/-
**The tokens of YAML.**

Main definitions:

* `CypherQuery.Yaml.Tag`, `CypherQuery.Yaml.Scalar` — what a scalar is made of;
* `CypherQuery.Yaml.Token` — **the tokens**.
-/

set_option autoImplicit false

namespace CypherQuery.Yaml

/-- A tag: the handle in front, and the rest. -/
structure Tag where
  /-- The handle, with its exclamation marks. -/
  handle : String
  /-- The rest. -/
  suffix : String
  deriving DecidableEq, Repr

/-- A scalar. -/
structure Scalar where
  /-- Its text. -/
  text : String
  /-- Whether it was written without quotes and not as a block. -/
  isPlain : Bool
  /-- Its tag. -/
  tag : Option Tag
  deriving DecidableEq, Repr

/-- What a node is read as where nothing is written. -/
def Scalar.missing : Scalar := ⟨"~", true, none⟩

/-- **The tokens of YAML.** -/
inductive Token where
  /-- A line that starts with a percent sign. -/
  | directive
  /-- The mark that starts a document. -/
  | documentStart
  /-- The mark that ends a document. -/
  | documentEnd
  /-- An indentation at which a sequence starts. -/
  | blockSequenceStart
  /-- An indentation at which a mapping starts. -/
  | blockMappingStart
  /-- The end of such an indentation. -/
  | blockEnd
  /-- An opening bracket. -/
  | flowSequenceStart
  /-- A closing bracket. -/
  | flowSequenceEnd
  /-- An opening brace. -/
  | flowMappingStart
  /-- A closing brace. -/
  | flowMappingEnd
  /-- A hyphen before an item. -/
  | blockEntry
  /-- A comma. -/
  | flowEntry
  /-- What a key follows. -/
  | key
  /-- What a value follows. -/
  | value
  /-- A reference to an anchor. -/
  | reference (name : String)
  /-- The name of the node that follows. -/
  | anchor (name : String)
  /-- The tag of the node that follows. -/
  | tag (t : Tag)
  /-- A scalar without its tag. -/
  | scalar (text : String) (isPlain : Bool)
  deriving DecidableEq, Repr

end CypherQuery.Yaml
