/-
**The elements of a pattern: nodes and relationships.**

An element has a variable and annotations: labels or a type, and properties.  The variable, and
the labels or the type, can be hidden; a hidden part is not written.

Main definitions:

* `CypherQuery.NodePattern`, `CypherQuery.RelationshipPattern` — the elements;
* `CypherQuery.RelationshipPattern.withLength` — a relationship with another length, which is
  checked at once.
-/

import CypherQuery.Expression.Basic
import CypherQuery.Pattern.PathLength

set_option autoImplicit false

namespace CypherQuery

/-- Where a relationship points. -/
inductive Direction where
  /-- To the node before it. -/
  | left
  /-- To the node after it. -/
  | right
  /-- Nowhere. -/
  | undirected
  deriving DecidableEq, Repr, Inhabited

namespace Direction

/-- The direction as a word. -/
def word : Direction → String
  | .left => "left"
  | .right => "right"
  | .undirected => "undirected"

/-- The direction that a word stands for. -/
def ofWord? : String → Option Direction
  | "left" => some .left
  | "right" => some .right
  | "undirected" => some .undirected
  | _ => none

theorem ofWord?_word (d : Direction) : ofWord? d.word = some d := by
  cases d <;> rfl

/-- A relationship that points there, from the text within its brackets. -/
def arrow (d : Direction) (text : String) : String :=
  match d with
  | .left => "<-[" ++ text ++ "]-"
  | .right => "-[" ++ text ++ "]->"
  | .undirected => "-[" ++ text ++ "]-"

end Direction

/-- A node of a pattern. -/
structure NodePattern where
  /-- What the node is called. -/
  identity : Variable
  /-- The labels it must have. -/
  labels : List String
  /-- The properties it must have. -/
  properties : List (String × Expression)
  /-- Whether the variable is written. -/
  showsVariable : Bool
  /-- Whether the labels are written. -/
  showsLabels : Bool
  deriving Repr

namespace NodePattern

/-- The node of a variable, without annotations. -/
def ofVariable (v : Variable) : NodePattern := ⟨v, [], [], true, true⟩

/-- The node with more labels. -/
def withLabels (node : NodePattern) (labels : List String) : NodePattern :=
  { node with labels := node.labels ++ labels }

/-- The node with more properties. -/
def withProperties (node : NodePattern) (properties : List (String × Expression)) : NodePattern :=
  { node with properties := node.properties ++ properties }

/-- The node with its variable hidden. -/
def hideVariable (node : NodePattern) : NodePattern := { node with showsVariable := false }

/-- The node with its labels hidden. -/
def hideLabels (node : NodePattern) : NodePattern := { node with showsLabels := false }

/-- The labels that are not hidden. -/
def shownLabels (node : NodePattern) : List String := if node.showsLabels then node.labels else []

/-- Comparison of nodes. -/
def same (a b : NodePattern) : Bool :=
  a.identity == b.identity && a.labels == b.labels &&
    Expression.sameEntries a.properties b.properties &&
    a.showsVariable == b.showsVariable && a.showsLabels == b.showsLabels

end NodePattern

/-- A relationship of a pattern. -/
structure RelationshipPattern where
  /-- What the relationship is called. -/
  identity : Variable
  /-- The type it must have. -/
  relationType : Option String
  /-- Where it points. -/
  direction : Direction
  /-- How many hops it spans; a single one if nothing is said. -/
  length : Option PathLength
  /-- The properties it must have. -/
  properties : List (String × Expression)
  /-- Whether the variable is written. -/
  showsVariable : Bool
  /-- Whether the type is written. -/
  showsType : Bool
  deriving Repr

namespace RelationshipPattern

/-- The relationship of a variable, without annotations; it points to the right. -/
def ofVariable (v : Variable) : RelationshipPattern := ⟨v, none, .right, none, [], true, true⟩

/-- The relationship with another type. -/
def withType (rel : RelationshipPattern) (relationType : String) : RelationshipPattern :=
  { rel with relationType := some relationType }

/-- The relationship with another direction. -/
def withDirection (rel : RelationshipPattern) (direction : Direction) : RelationshipPattern :=
  { rel with direction := direction }

/-- The relationship with another length, **if that may be used**. -/
def withLength (rel : RelationshipPattern) (length : PathLength) :
    Logged BuildError RelationshipPattern := do
  length.check
  return { rel with length := some length }

/-- The relationship with more properties. -/
def withProperties (rel : RelationshipPattern) (properties : List (String × Expression)) :
    RelationshipPattern :=
  { rel with properties := rel.properties ++ properties }

/-- The relationship with its variable hidden. -/
def hideVariable (rel : RelationshipPattern) : RelationshipPattern :=
  { rel with showsVariable := false }

/-- The relationship with its type hidden. -/
def hideType (rel : RelationshipPattern) : RelationshipPattern := { rel with showsType := false }

/-- The type, unless it is hidden. -/
def shownType (rel : RelationshipPattern) : Option String :=
  if rel.showsType then rel.relationType else none

/-- Comparison of relationships. -/
def same (a b : RelationshipPattern) : Bool :=
  a.identity == b.identity && a.relationType == b.relationType && a.direction == b.direction &&
    a.length == b.length && Expression.sameEntries a.properties b.properties &&
    a.showsVariable == b.showsVariable && a.showsType == b.showsType

end RelationshipPattern

end CypherQuery
