/-
**The nodes of a YAML document.**

A node is a scalar, a sequence, a mapping or an alias.  An alias stands for the node with its
anchor; while that node is still being read, what the alias stands for would contain itself, and
there is no such node.

Main definitions:

* `CypherQuery.Yaml.Node` — **the nodes**;
* `CypherQuery.Yaml.Node.target?` — a node with aliases followed.
-/

import CypherQuery.Yaml.Token

set_option autoImplicit false

namespace CypherQuery.Yaml

/-- **The nodes of a document.** -/
inductive Node where
  /-- A scalar. -/
  | scalar (s : Scalar)
  /-- A sequence. -/
  | sequence (items : List Node)
  /-- A mapping; keys may be any nodes and may be repeated. -/
  | mapping (entries : List (Node × Node))
  /-- An alias for a node. -/
  | reference (target : Node)
  /-- An alias for a node that contains it. -/
  | selfReference
  deriving Repr, Inhabited

namespace Node

/-- What is read where nothing is written. -/
def missing : Node := .scalar .missing

/-- The node itself, or what it is an alias for. -/
def target? : Node → Option Node
  | .reference target => target.target?
  | .selfReference => none
  | node => some node

end Node

end CypherQuery.Yaml
