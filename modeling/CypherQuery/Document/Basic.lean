/-
**Query documents.**

A query document describes one pattern and what to return from it.  Elements of the pattern may
have keys: elements with the same key stand for the same variable, and filters and return items
refer to them.

Main definitions:

* `CypherQuery.DocumentElement`, `CypherQuery.DocumentFilter`, `CypherQuery.DocumentReturn` — the
  parts of a document;
* `CypherQuery.QueryDocument` — **documents**;
* `CypherQuery.DocumentError` — what can be wrong with them.
-/

import CypherQuery.Error
import CypherQuery.Pattern.Element

set_option autoImplicit false

namespace CypherQuery

/-- How many hops a relationship of a document spans. -/
inductive DocumentLength where
  /-- So many. -/
  | exactly (hops : Nat)
  /-- At least so many and at most so many, where given. -/
  | between (least greatest : Option Nat)
  /-- What a text says. -/
  | text (s : String)
  deriving DecidableEq, Repr

/-- A node of a document. -/
structure DocumentNode where
  /-- The key of its variable. -/
  key : Option String
  /-- Its labels. -/
  labels : List String
  /-- Its properties. -/
  properties : Dictionary Value
  deriving DecidableEq, Repr

/-- A relationship of a document. -/
structure DocumentRelationship where
  /-- The key of its variable. -/
  key : Option String
  /-- Its type. -/
  relationType : Option String
  /-- Where it points. -/
  direction : Direction
  /-- How many hops it spans; a single one if nothing is said. -/
  length : Option DocumentLength
  /-- Its properties. -/
  properties : Dictionary Value
  deriving DecidableEq, Repr

/-- An element of the pattern of a document. -/
inductive DocumentElement where
  /-- A node. -/
  | node (n : DocumentNode)
  /-- A relationship. -/
  | relationship (r : DocumentRelationship)
  deriving DecidableEq, Repr

namespace DocumentElement

/-- The key of an element. -/
def key : DocumentElement → Option String
  | .node n => n.key
  | .relationship r => r.key

/-- The properties of an element. -/
def properties : DocumentElement → Dictionary Value
  | .node n => n.properties
  | .relationship r => r.properties

/-- Which sort of element it is. -/
def sort : DocumentElement → ElementSort
  | .node _ => .node
  | .relationship _ => .relationship

end DocumentElement

/-- A condition: a property equals a value. -/
structure DocumentFilter where
  /-- The key of the variable. -/
  key : String
  /-- The property. -/
  property : String
  /-- The value. -/
  value : Value
  deriving DecidableEq, Repr

/-- What is returned: a variable or a property of it, and possibly a name for it. -/
structure DocumentReturn where
  /-- The key of the variable. -/
  key : String
  /-- The property. -/
  property : Option String
  /-- The name. -/
  name : Option String
  deriving DecidableEq, Repr

/-- **A query document.** -/
structure QueryDocument where
  /-- Whether rows without a match are kept. -/
  optional : Bool
  /-- Whether the keys become the names of the variables. -/
  namedVariables : Bool
  /-- The elements of the pattern. -/
  elements : List DocumentElement
  /-- The conditions. -/
  filters : List DocumentFilter
  /-- What is returned. -/
  returns : List DocumentReturn
  deriving DecidableEq, Repr

/-- What can be wrong with a document. -/
inductive DocumentError where
  /-- The pattern has no element. -/
  | emptyPattern
  /-- An element is of the wrong sort. -/
  | unexpectedElement (index : Nat) (expected : ElementSort)
  /-- A filter or a return item refers to a key that no element has. -/
  | unknownVariable (key : String)
  /-- A text says nothing about how many hops a relationship spans. -/
  | invalidLength (text : String)
  /-- The pattern cannot be put together. -/
  | build (cause : BuildError)
  deriving DecidableEq, Repr

namespace DocumentError

/-- The wording of an error. -/
def message : DocumentError → String
  | .emptyPattern => "Query document pattern is empty"
  | .unexpectedElement index expected =>
      "Pattern element " ++ toString index ++ " must be a " ++
        (match expected with | .node => "node" | .relationship => "relationship")
  | .unknownVariable key =>
      "Unknown variable '" ++ key ++ "' (every referenced var must appear in the pattern)"
  | .invalidLength text =>
      "Invalid length '" ++ text ++ "' (use a number, \"*\" or \x7bmin, max\x7d)"
  | .build cause => cause.message

end DocumentError

end CypherQuery
