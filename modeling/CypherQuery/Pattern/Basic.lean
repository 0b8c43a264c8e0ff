/-
**Patterns: chains of nodes and relationships.**

A pattern starts at a node, and every hop adds a relationship and the node at its end.  While a
pattern is put together it may end on a relationship; such an *open* pattern becomes a pattern
again by the node that closes it.

Main definitions:

* `CypherQuery.Pattern`, `CypherQuery.OpenPattern` — complete patterns and open ones;
* `CypherQuery.Pattern.related`, `CypherQuery.OpenPattern.closedBy` — **opening and
  closing a hop**;
* `CypherQuery.Pattern.modifyLastNode`, `CypherQuery.OpenPattern.modifyRelationship` — changes to
  the last element of a chain;
* `CypherQuery.Pattern.identities` — the variables of a pattern, in order.
-/

import CypherQuery.Pattern.Element

set_option autoImplicit false

namespace CypherQuery

/-- A relationship and the node at its end. -/
structure Hop where
  /-- The relationship. -/
  relationship : RelationshipPattern
  /-- The node at its end. -/
  node : NodePattern
  deriving Repr

namespace Hop

/-- Hops with a change to the node at the end of the last one. -/
def modifyLastNode (f : NodePattern → NodePattern) : List Hop → List Hop
  | [] => []
  | [hop] => [{ hop with node := f hop.node }]
  | hop :: rest => hop :: modifyLastNode f rest

/-- Comparison of hops. -/
def same (a b : Hop) : Bool := a.relationship.same b.relationship && a.node.same b.node

end Hop

/-- A chain that starts and ends at a node. -/
structure Pattern where
  /-- The first node. -/
  start : NodePattern
  /-- The hops from there. -/
  hops : List Hop
  deriving Repr

/-- A chain that ends on a relationship. -/
structure OpenPattern where
  /-- The chain up to the last relationship. -/
  pattern : Pattern
  /-- The last relationship. -/
  relationship : RelationshipPattern
  deriving Repr

namespace Pattern

/-- The pattern of a single node. -/
def ofNode (node : NodePattern) : Pattern := ⟨node, []⟩

/-- The pattern, continued by a relationship. -/
def related (p : Pattern) (rel : RelationshipPattern) : OpenPattern := ⟨p, rel⟩

/-- The pattern with a change to its last node. -/
def modifyLastNode (f : NodePattern → NodePattern) (p : Pattern) : Pattern :=
  match p.hops with
  | [] => { p with start := f p.start }
  | hops => { p with hops := Hop.modifyLastNode f hops }

/-- The pattern with more properties of its last node. -/
def withProperties (p : Pattern) (properties : List (String × Expression)) : Pattern :=
  p.modifyLastNode fun node => { node with properties := node.properties ++ properties }

/-- The pattern with the variable of its last node hidden. -/
def hideVariable (p : Pattern) : Pattern :=
  p.modifyLastNode fun node => { node with showsVariable := false }

/-- The pattern with the labels of its last node hidden. -/
def hideLabels (p : Pattern) : Pattern :=
  p.modifyLastNode fun node => { node with showsLabels := false }

/-- The number of relationships. -/
def length (p : Pattern) : Nat := p.hops.length

/-- The variables of all elements, from left to right. -/
def identities (p : Pattern) : List Variable :=
  p.start.identity :: p.hops.flatMap fun hop => [hop.relationship.identity, hop.node.identity]

/-- Comparison of patterns. -/
def same (a b : Pattern) : Bool := a.start.same b.start && a.hops.isEqv b.hops Hop.same

end Pattern

namespace OpenPattern

/-- The pattern, closed by a node. -/
def closedBy (p : OpenPattern) (node : NodePattern) : Pattern :=
  { p.pattern with hops := p.pattern.hops ++ [⟨p.relationship, node⟩] }

/-- The open pattern with a change to its last relationship. -/
def modifyRelationship (f : RelationshipPattern → RelationshipPattern) (p : OpenPattern) :
    OpenPattern :=
  { p with relationship := f p.relationship }

/-- The open pattern with another direction of its last relationship. -/
def withDirection (p : OpenPattern) (direction : Direction) : OpenPattern :=
  p.modifyRelationship fun rel => rel.withDirection direction

/-- The open pattern with another type of its last relationship. -/
def withType (p : OpenPattern) (relationType : String) : OpenPattern :=
  p.modifyRelationship fun rel => rel.withType relationType

/-- The open pattern with another length of its last relationship, **if that may be used**. -/
def withLength (p : OpenPattern) (length : PathLength) : Logged BuildError OpenPattern := do
  let rel ← p.relationship.withLength length
  return { p with relationship := rel }

/-- The open pattern with more properties of its last relationship. -/
def withProperties (p : OpenPattern) (properties : List (String × Expression)) : OpenPattern :=
  p.modifyRelationship fun rel => rel.withProperties properties

/-- The open pattern with the variable of its last relationship hidden. -/
def hideVariable (p : OpenPattern) : OpenPattern :=
  p.modifyRelationship RelationshipPattern.hideVariable

/-- The open pattern with the type of its last relationship hidden. -/
def hideType (p : OpenPattern) : OpenPattern := p.modifyRelationship RelationshipPattern.hideType

/-- Comparison of open patterns. -/
def same (a b : OpenPattern) : Bool :=
  a.pattern.same b.pattern && a.relationship.same b.relationship

end OpenPattern

end CypherQuery
