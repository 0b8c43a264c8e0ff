/-
**Writing patterns.**

The elements of a pattern are written from left to right.  When a variable is shown for the first
time within the pattern, its element is written with labels or type and properties; when it is
shown again, the element is written bare, and a warning says so if that leaves something out.  An
element with a hidden variable keeps its annotations.  Direction and length are always written.

Main definitions:

* `CypherQuery.shownBefore` — the variables that the elements up to a place show;
* `CypherQuery.NodePattern.render`, `CypherQuery.RelationshipPattern.render` — the elements;
* `CypherQuery.Pattern.render` — **the text of a pattern**.
-/

import CypherQuery.Expression.Rendering
import CypherQuery.Pattern.Basic

set_option autoImplicit false

namespace CypherQuery

/-- The name of a shown variable, and nothing for a hidden one. -/
def shownName (v : Variable) (shown : Bool) : BuildM String :=
  if shown then v.render else .pure ""

/-- The text of a property map after the text of the other parts of an element; nothing if the map
is empty. -/
def renderProperties (before : String) (properties : List (String × Expression)) :
    BuildM String :=
  if properties.isEmpty then .pure before
  else do
    let map ← Expression.renderMap properties
    return before ++ (if before.isEmpty then "" else " ") ++ map

/-- A warning, if something is left out. -/
def warnDropped (sort : ElementSort) (writtenName : String) (dropped : Bool) : BuildM Unit :=
  if dropped then .report (.annotationsDropped sort writtenName) else .pure ()

namespace NodePattern

/-- Whether a bare node leaves something out. -/
def hasAnnotations (node : NodePattern) : Bool :=
  !node.shownLabels.isEmpty || !node.properties.isEmpty

/-- The labels of a node, with the sign between them. -/
def labelText (node : NodePattern) (op : LabelOperator) : String :=
  if node.shownLabels.isEmpty then ""
  else ":" ++ String.intercalate op.separator (node.shownLabels.map Identifier.escape)

/-- The text of a node, with its annotations. -/
def renderAnnotated (node : NodePattern) (name : String) : BuildM String := do
  let op ← BuildM.ask Environment.labelOperator
  renderProperties (name ++ node.labelText op) node.properties

/-- The text of a node, without its annotations. -/
def renderBare (node : NodePattern) (name : String) : BuildM String := do
  warnDropped .node name node.hasAnnotations
  return name

/-- **The text of a node.** -/
def render (node : NodePattern) (annotated : Bool) : BuildM String := do
  let name ← shownName node.identity node.showsVariable
  let text ← if annotated then node.renderAnnotated name else node.renderBare name
  BuildM.report (.elementWritten .node text)
  return "(" ++ text ++ ")"

end NodePattern

namespace RelationshipPattern

/-- Whether a bare relationship leaves something out. -/
def hasAnnotations (rel : RelationshipPattern) : Bool :=
  rel.shownType.isSome || !rel.properties.isEmpty

/-- The type of a relationship. -/
def typeText (rel : RelationshipPattern) : String :=
  match rel.shownType with
  | some relationType => ":" ++ Identifier.escape relationType
  | none => ""

/-- The length of a relationship. -/
def lengthText (rel : RelationshipPattern) : String :=
  match rel.length with
  | some length => length.render
  | none => ""

/-- The text of a relationship within its brackets, with its annotations. -/
def renderAnnotated (rel : RelationshipPattern) (name : String) : BuildM String :=
  renderProperties (name ++ rel.typeText ++ rel.lengthText) rel.properties

/-- The text of a relationship within its brackets, without its annotations. -/
def renderBare (rel : RelationshipPattern) (name : String) : BuildM String := do
  warnDropped .relationship name rel.hasAnnotations
  return name ++ rel.lengthText

/-- **The text of a relationship.** -/
def render (rel : RelationshipPattern) (annotated : Bool) : BuildM String := do
  let name ← shownName rel.identity rel.showsVariable
  let text ← if annotated then rel.renderAnnotated name else rel.renderBare name
  BuildM.report (.elementWritten .relationship text)
  return rel.direction.arrow text

end RelationshipPattern

/-- The variables shown up to and including an element, from those shown before it. -/
def shownBefore (earlier : List Variable) (v : Variable) (shown : Bool) : List Variable :=
  if shown then v :: earlier else earlier

/-- Whether an element is written with its annotations, given the variables shown before it. -/
def isAnnotated (earlier : List Variable) (v : Variable) (shown : Bool) : Bool :=
  !shown || !earlier.contains v

namespace NodePattern

/-- Whether a node is written with its annotations. -/
def annotatedAfter (node : NodePattern) (earlier : List Variable) : Bool :=
  isAnnotated earlier node.identity node.showsVariable

/-- The variables shown up to and including a node. -/
def extend (node : NodePattern) (earlier : List Variable) : List Variable :=
  shownBefore earlier node.identity node.showsVariable

end NodePattern

namespace RelationshipPattern

/-- Whether a relationship is written with its annotations. -/
def annotatedAfter (rel : RelationshipPattern) (earlier : List Variable) : Bool :=
  isAnnotated earlier rel.identity rel.showsVariable

/-- The variables shown up to and including a relationship. -/
def extend (rel : RelationshipPattern) (earlier : List Variable) : List Variable :=
  shownBefore earlier rel.identity rel.showsVariable

end RelationshipPattern

/-- The text of the hops of a pattern, given the variables shown before them. -/
def Hop.renderAll (earlier : List Variable) : List Hop → BuildM String
  | [] => .pure ""
  | ⟨rel, node⟩ :: rest => do
      let relText ← rel.render (rel.annotatedAfter earlier)
      let nodeText ← node.render (node.annotatedAfter (rel.extend earlier))
      let text ← renderAll (node.extend (rel.extend earlier)) rest
      return relText ++ nodeText ++ text

/-- **The text of a pattern.** -/
def Pattern.render (p : Pattern) : BuildM String := do
  let nodeText ← p.start.render (p.start.annotatedAfter [])
  let text ← Hop.renderAll (p.start.extend []) p.hops
  return nodeText ++ text

/-- An open pattern has no text. -/
def OpenPattern.render (_ : OpenPattern) : BuildM String := .fail .incompletePattern

end CypherQuery
