/-
**Reading back patterns.**

The text of a pattern says of every element whether it has a variable and which, of a node its
labels, of a relationship its type, its direction and its length, and the properties of either.  It
does not say what is hidden, and nothing but the variable of a node, or the variable and the length
of a relationship, if the variable was shown before in the same pattern.

Each part of an element may be missing.  The reader knows a part by the sign in front of it, and
leaves the text as it is if the sign is not there.

Main definitions:

* `CypherQuery.Pattern.visible` — a pattern without the annotations that are not written;
* `CypherQuery.Pattern.printed` — **what the text of a pattern says**;
* `CypherQuery.Reading.readNode`, `CypherQuery.Reading.readRelationship` — the readers of elements;
* `CypherQuery.Reading.readPattern` — **the reader of patterns**.
-/

import CypherQuery.Pattern.Rendering
import CypherQuery.Proofs.Reading.Inverse

set_option autoImplicit false

namespace CypherQuery

/-! ### What a text says -/

/-- What the text of a node says: its variable unless it is hidden, its labels and its
properties. -/
structure PrintedNode where
  subject : Option Variable
  labels : List String
  properties : List (String × Expression)

/-- What the text of a relationship says: where it points, its variable unless it is hidden, its
type, how many hops it spans, and its properties. -/
structure PrintedRelationship where
  direction : Direction
  subject : Option Variable
  relationType : Option String
  length : Option PathLength
  properties : List (String × Expression)

/-- What the text of a pattern says, element by element: the first node, and the relationships, each
with the node at its end. -/
structure PrintedPattern where
  start : PrintedNode
  hops : List (PrintedRelationship × PrintedNode)

/-- The variable of an element, unless it is hidden. -/
def shownVariable (v : Variable) (shown : Bool) : Option Variable := if shown then some v else none

/-- **The normal form of a length**: without bounds it is any number. -/
def PathLength.normal : PathLength → PathLength
  | .between least greatest => ofBounds least greatest
  | length => length

namespace NodePattern

/-- The node without its annotations. -/
def bare (node : NodePattern) : NodePattern := { node with labels := [], properties := [] }

/-- The node as it is written, with its annotations or without. -/
def visible (node : NodePattern) (annotated : Bool) : NodePattern :=
  if annotated then node else node.bare

/-- What the text of a node says that is written with its annotations. -/
def printed (node : NodePattern) : PrintedNode :=
  ⟨shownVariable node.identity node.showsVariable, node.shownLabels,
    node.properties.map Expression.normalEntry⟩

end NodePattern

namespace RelationshipPattern

/-- The relationship without its annotations; its length is none of them. -/
def bare (rel : RelationshipPattern) : RelationshipPattern :=
  { rel with relationType := none, properties := [] }

/-- The relationship as it is written, with its annotations or without. -/
def visible (rel : RelationshipPattern) (annotated : Bool) : RelationshipPattern :=
  if annotated then rel else rel.bare

/-- What the text of a relationship says that is written with its annotations. -/
def printed (rel : RelationshipPattern) : PrintedRelationship :=
  ⟨rel.direction, shownVariable rel.identity rel.showsVariable, rel.shownType,
    rel.length.map PathLength.normal, rel.properties.map Expression.normalEntry⟩

end RelationshipPattern

/-- Hops without the annotations that are not written, given the variables shown before them. -/
def Hop.visibleAll (earlier : List Variable) : List Hop → List Hop
  | [] => []
  | ⟨rel, node⟩ :: rest =>
      ⟨rel.visible (rel.annotatedAfter earlier),
          node.visible (node.annotatedAfter (rel.extend earlier))⟩ ::
        visibleAll (node.extend (rel.extend earlier)) rest

/-- What the text of a hop says that is written with all annotations. -/
def Hop.printed (hop : Hop) : PrintedRelationship × PrintedNode :=
  (hop.relationship.printed, hop.node.printed)

namespace Pattern

/-- **A pattern without the annotations that are not written**, those of elements that show a
variable again. -/
def visible (p : Pattern) : Pattern :=
  ⟨p.start.visible (p.start.annotatedAfter []), Hop.visibleAll (p.start.extend []) p.hops⟩

/-- **What the text of a pattern says.** -/
def printed (p : Pattern) : PrintedPattern :=
  ⟨p.visible.start.printed, p.visible.hops.map Hop.printed⟩

end Pattern

/-- What stands before the brackets of a relationship. -/
def Direction.opening : Direction → String
  | .left => "<-["
  | _ => "-["

/-- What stands behind the brackets of a relationship. -/
def Direction.closing : Direction → String
  | .right => "]->"
  | _ => "]-"

namespace Reading

/-! ### Parts that may be missing -/

/-- A part that may be missing, and what is read then. -/
def readOr {α : Type} (missing : α) (part : Reader α) : Reader α := fun cs =>
  some ((part cs).getD (missing, cs))

/-- A part that may be missing. -/
def readIf {α : Type} (part : Reader α) : Reader (Option α) :=
  readOr none fun cs => (part cs).map fun r => (some r.1, r.2)

/-- A part behind a sign. -/
def readMarked {α : Type} (sign : String) (part : Reader α) : Reader α := fun cs => do
  part (← skip sign cs)

/-- Items, at least one, with a sign between each two.  They end where the sign does not come. -/
def readChain {α : Type} (item : Reader α) (sign : String) (cs : List Char) :
    Option (List α × List Char) := do
  let (a, following) ← item cs
  match skip sign following with
  | none => some ([a], following)
  | some next =>
      if next.length < cs.length then
        let (as, rest) ← readChain item sign next
        some (a :: as, rest)
      else none
termination_by cs.length

/-- Items, one behind the other, to the end of a text. -/
def readAll {α : Type} (item : Reader α) (cs : List Char) : Option (List α) :=
  match cs with
  | [] => some []
  | c :: cs => do
      let (a, rest) ← item (c :: cs)
      if rest.length ≤ cs.length then (readAll item rest).map (a :: ·) else none
termination_by cs.length

/-! ### Elements -/

section

variable (owners : Owners) (sep : String) (inner : Reader Expression)

/-- The variable of an element. -/
def readVariable : Reader Variable := fun cs => do
  let (name, rest) ← readName cs
  some (← owners.variableOf name, rest)

/-- A property map, in front of which a space may stand. -/
def readMap : Reader (List (String × Expression)) := fun cs =>
  readMarked "\x7b" (readItems (readEntry inner) ", " "\x7d") ((skip " " cs).getD cs)

/-- The bounds of a length. -/
def readBounds : Reader PathLength := fun cs => do
  let (least, following) ← readIf readNatural cs
  match skip ".." following with
  | some next =>
      let (greatest, rest) ← readIf readNatural next
      some (.between least greatest, rest)
  | none => some (least.elim .any .exactly, following)

/-- A node. -/
def readNode : Reader PrintedNode := fun cs => do
  let (subject, cs) ← readIf (readVariable owners) (← skip "(" cs)
  let (labels, cs) ← readOr [] (readMarked ":" (readChain readName sep)) cs
  let (properties, cs) ← readOr [] (readMap inner) cs
  some (⟨subject, labels, properties⟩, ← skip ")" cs)

/-- What stands in the brackets of a relationship that points somewhere. -/
def readBrackets (d : Direction) : Reader PrintedRelationship := fun cs => do
  let (subject, cs) ← readIf (readVariable owners) cs
  let (relationType, cs) ← readIf (readMarked ":" readName) cs
  let (length, cs) ← readIf (readMarked "*" readBounds) cs
  let (properties, cs) ← readOr [] (readMap inner) cs
  some (⟨d, subject, relationType, length, properties⟩, cs)

/-- A relationship that points somewhere. -/
def readArrow (d : Direction) : Reader PrintedRelationship := fun cs => do
  let (rel, cs) ← readBrackets owners inner d (← skip d.opening cs)
  some (rel, ← skip d.closing cs)

/-- A relationship; whether it points to the right is seen before it is taken for one that points
nowhere. -/
def readRelationship : Reader PrintedRelationship := fun cs =>
  [Direction.left, .right, .undirected].findSome? fun d => readArrow owners inner d cs

/-- A relationship and the node at its end. -/
def readHop : Reader (PrintedRelationship × PrintedNode) := fun cs => do
  let (rel, cs) ← readRelationship owners inner cs
  let (node, cs) ← readNode owners sep inner cs
  some ((rel, node), cs)

/-- **The reader of patterns.** -/
def readPattern (cs : List Char) : Option PrintedPattern := do
  let (start, cs) ← readNode owners sep inner cs
  some ⟨start, ← readAll (readHop owners sep inner) cs⟩

end

end Reading

end CypherQuery
