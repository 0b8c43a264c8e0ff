/-
**Variables and parameters.**

A variable stands for a node, a relationship, a plain value or a path of a query; a parameter
stands for a value that is handed over beside the query text.  Either has an identity of its own:
two variables with the same kind and name are still two variables, and only occurrences of one and
the same identity get the same name.  An explicit name is used as it is; without one a name is
generated, and the kind selects its stem.

Main definitions:

* `CypherQuery.VariableKind`, `CypherQuery.VariableKind.stem` — the kinds and the stems of their
  generated names;
* `CypherQuery.Variable`, `CypherQuery.Parameter` — the two sorts of identities.
-/

import CypherQuery.Value.Basic

set_option autoImplicit false

namespace CypherQuery

/-- What a variable stands for. -/
inductive VariableKind where
  /-- A node. -/
  | node
  /-- A relationship. -/
  | relationship
  /-- A plain value. -/
  | value
  /-- A path. -/
  | path
  deriving DecidableEq, Repr, Inhabited

namespace VariableKind

/-- The stem of generated names. -/
def stem : VariableKind → String
  | .node => "this"
  | .relationship => "this"
  | .value => "var"
  | .path => "p"

/-- The kind as a word with a capital letter. -/
def title : VariableKind → String
  | .node => "Node"
  | .relationship => "Relationship"
  | .value => "Value"
  | .path => "Path"

/-- The kind as a word in lower case. -/
def word : VariableKind → String
  | .node => "node"
  | .relationship => "relationship"
  | .value => "value"
  | .path => "path"

/-- The kind that a word in lower case stands for. -/
def ofWord? : String → Option VariableKind
  | "node" => some .node
  | "relationship" => some .relationship
  | "value" => some .value
  | "path" => some .path
  | _ => none

theorem ofWord?_word (kind : VariableKind) : ofWord? kind.word = some kind := by
  cases kind <;> rfl

end VariableKind

/-- A variable.  The number tells it from every other variable. -/
structure Variable where
  /-- The number of the identity. -/
  id : Nat
  /-- What it stands for. -/
  kind : VariableKind
  /-- The explicit name. -/
  name : Option String
  deriving DecidableEq, Repr

/-- A parameter.  The number tells it from every other parameter. -/
structure Parameter where
  /-- The number of the identity. -/
  id : Nat
  /-- The explicit name. -/
  name : Option String
  /-- The value handed over. -/
  value : Value
  deriving DecidableEq, Repr

end CypherQuery
