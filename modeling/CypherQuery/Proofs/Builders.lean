/-
**Putting patterns together step by step.**

A relationship starts from its variable, and steps give it a type, a direction, a length or
properties, or hide something of it.  It is then attached to a pattern, which becomes an open one,
and the same steps can go on there, until a node closes the pattern again.  Other steps change the
last node.  So the steps that lead to a pattern come hop by hop, in any number and any order within
a hop.

Whether a step is done before or after the relationship is attached does not matter.

Main definitions:

* `CypherQuery.RelationshipStep`, `CypherQuery.NodeStep` — the steps;
* `CypherQuery.RelationshipBuilder`, `CypherQuery.PatternBuilder`, `CypherQuery.OpenPatternBuilder`
  — **the steps that lead to a relationship, to a pattern and to an open pattern**;
* `CypherQuery.PatternBuilder.build` — what they lead to.

Main results:

* `CypherQuery.RelationshipStep.foldlM_runOpen` — steps on an open pattern are steps on its last
  relationship;
* `CypherQuery.OpeningBuilder.run_eq` — **the steps before and after attaching are one row of
  steps**;
* `CypherQuery.reports_foldlM` — the errors of a row of steps.
-/

import CypherQuery.Proofs.Document.Translation

set_option autoImplicit false

namespace CypherQuery

/-! ### Steps -/

/-- A step that changes a relationship: one on its own, or the last one of an open pattern. -/
inductive RelationshipStep where
  /-- Another type. -/
  | withType (relationType : String)
  /-- Another direction. -/
  | withDirection (direction : Direction)
  /-- Another length. -/
  | withLength (length : PathLength)
  /-- More properties. -/
  | withProperties (properties : List (String × Expression))
  /-- The variable is hidden. -/
  | hideVariable
  /-- The type is hidden. -/
  | hideType

namespace RelationshipStep

/-- A step on a relationship of its own. -/
def run (rel : RelationshipPattern) : RelationshipStep → Logged BuildError RelationshipPattern
  | .withType relationType => .pure (rel.withType relationType)
  | .withDirection direction => .pure (rel.withDirection direction)
  | .withLength length => rel.withLength length
  | .withProperties properties => .pure (rel.withProperties properties)
  | .hideVariable => .pure rel.hideVariable
  | .hideType => .pure rel.hideType

/-- A step on an open pattern. -/
def runOpen (p : OpenPattern) : RelationshipStep → Logged BuildError OpenPattern
  | .withType relationType => .pure (p.withType relationType)
  | .withDirection direction => .pure (p.withDirection direction)
  | .withLength length => p.withLength length
  | .withProperties properties => .pure (p.withProperties properties)
  | .hideVariable => .pure p.hideVariable
  | .hideType => .pure p.hideType

end RelationshipStep

/-- A step that changes the last node of a pattern. -/
inductive NodeStep where
  /-- More properties. -/
  | withProperties (properties : List (String × Expression))
  /-- The variable is hidden. -/
  | hideVariable
  /-- The labels are hidden. -/
  | hideLabels

/-- A step on a pattern. -/
def NodeStep.run (p : Pattern) : NodeStep → Pattern
  | .withProperties properties => p.withProperties properties
  | .hideVariable => p.hideVariable
  | .hideLabels => p.hideLabels

/-! ### Builders -/

/-- **The steps that lead to a relationship.** -/
structure RelationshipBuilder where
  /-- The variable from which it starts. -/
  identity : Variable
  /-- The steps, in order. -/
  steps : List RelationshipStep

/-- The relationship to which steps lead. -/
def RelationshipBuilder.build (b : RelationshipBuilder) : Logged BuildError RelationshipPattern :=
  b.steps.foldlM RelationshipStep.run (.ofVariable b.identity)

/-- The steps that open a pattern: those to a relationship, and those after it is attached. -/
structure OpeningBuilder where
  /-- The relationship. -/
  relationship : RelationshipBuilder
  /-- The steps on the open pattern, in order. -/
  steps : List RelationshipStep

/-- A pattern, opened by a relationship. -/
def OpeningBuilder.run (o : OpeningBuilder) (p : Pattern) : Logged BuildError OpenPattern := do
  let rel ← o.relationship.build
  o.steps.foldlM RelationshipStep.runOpen (p.related rel)

/-- The steps of a hop: those that open the pattern, the node that closes it, and those after it. -/
structure HopBuilder where
  /-- How the pattern is opened. -/
  opening : OpeningBuilder
  /-- The node that closes it. -/
  node : NodePattern
  /-- The steps on the closed pattern, in order. -/
  steps : List NodeStep

/-- A pattern, continued by a hop. -/
def HopBuilder.run (p : Pattern) (hop : HopBuilder) : Logged BuildError Pattern := do
  let opened ← hop.opening.run p
  return hop.steps.foldl NodeStep.run (opened.closedBy hop.node)

/-- **The steps that lead to a pattern.** -/
structure PatternBuilder where
  /-- The node from which it starts. -/
  start : NodePattern
  /-- The steps on it, in order. -/
  steps : List NodeStep
  /-- The hops from there. -/
  hops : List HopBuilder

/-- **The pattern to which steps lead.** -/
def PatternBuilder.build (b : PatternBuilder) : Logged BuildError Pattern :=
  b.hops.foldlM HopBuilder.run (b.steps.foldl NodeStep.run (.ofNode b.start))

/-- **The steps that lead to an open pattern.** -/
structure OpenPatternBuilder where
  /-- The steps up to the last node. -/
  pattern : PatternBuilder
  /-- The steps from there. -/
  opening : OpeningBuilder

/-- The open pattern to which steps lead. -/
def OpenPatternBuilder.build (b : OpenPatternBuilder) : Logged BuildError OpenPattern := do
  let p ← b.pattern.build
  b.opening.run p

/-! ### Rows of steps -/

/-- **The errors of a row of steps**, if those of a step do not depend on where it starts. -/
theorem reports_foldlM {ε α β : Type} {step : β → α → Logged ε β} {errors : α → List ε}
    (h : ∀ b a, Reports (errors a) (step b a).result) (as : List α) :
    ∀ b, Reports (as.flatMap errors) (as.foldlM step b).result := by
  induction as with
  | nil => exact fun b => reports_ok b
  | cons a rest ih =>
      intro b
      rw [List.flatMap_cons, List.foldlM_cons, Logged.result_bind]
      exact (h b a).bind ih

theorem Logged.result_map {ε α β : Type} (f : α → β) (x : Logged ε α) :
    (f <$> x).result = x.result.map f := by
  rw [← bind_pure_comp, result_bind]
  cases x.result <;> rfl

namespace RelationshipStep

/-- A step on an open pattern is one on its last relationship. -/
theorem runOpen_related (p : Pattern) (rel : RelationshipPattern) (step : RelationshipStep) :
    step.runOpen (p.related rel) = p.related <$> step.run rel := by
  cases step with
  | withLength length => exact bind_pure_comp _ _
  | _ => rfl

/-- **Steps on an open pattern are steps on its last relationship**, with the same records. -/
theorem foldlM_runOpen (p : Pattern) (steps : List RelationshipStep) :
    ∀ rel : RelationshipPattern,
      steps.foldlM runOpen (p.related rel) = p.related <$> steps.foldlM run rel := by
  induction steps with
  | nil => exact fun _ => rfl
  | cons step rest ih =>
      intro rel
      rw [List.foldlM_cons, List.foldlM_cons, runOpen_related, map_bind, bind_map_left]
      exact congrArg _ (funext ih)

end RelationshipStep

/-- All steps of a relationship, before it is attached and afterwards. -/
def OpeningBuilder.whole (o : OpeningBuilder) : RelationshipBuilder :=
  ⟨o.relationship.identity, o.relationship.steps ++ o.steps⟩

/-- **The steps before and after attaching are one row of steps.** -/
theorem OpeningBuilder.run_eq (o : OpeningBuilder) (p : Pattern) :
    o.run p = p.related <$> o.whole.build := by
  rw [run, RelationshipBuilder.build, RelationshipBuilder.build, whole, List.foldlM_append,
    map_bind]
  exact congrArg _ (funext (RelationshipStep.foldlM_runOpen p o.steps))

theorem OpeningBuilder.result_run (o : OpeningBuilder) (p : Pattern) :
    (o.run p).result = o.whole.build.result.map p.related := by
  rw [run_eq, Logged.result_map]

/-- A pattern continued by a relationship that is put together already, and by the rest of a hop. -/
def HopBuilder.attach (hop : HopBuilder) (p : Pattern) (rel : RelationshipPattern) : Pattern :=
  hop.steps.foldl NodeStep.run ((p.related rel).closedBy hop.node)

theorem HopBuilder.run_eq (hop : HopBuilder) (p : Pattern) :
    hop.run p = hop.attach p <$> hop.opening.whole.build := by
  rw [run, OpeningBuilder.run_eq, bind_map_left]
  exact bind_pure_comp _ _

theorem HopBuilder.result_run (hop : HopBuilder) (p : Pattern) :
    (hop.run p).result = hop.opening.whole.build.result.map (hop.attach p) := by
  rw [run_eq, Logged.result_map]

/-! ### Relationships -/

/-- The relationships of a pattern, from left to right. -/
def Pattern.relationships (p : Pattern) : List RelationshipPattern := p.hops.map Hop.relationship

/-- The relationships of an open pattern, from left to right. -/
def OpenPattern.relationships (p : OpenPattern) : List RelationshipPattern :=
  p.pattern.relationships ++ [p.relationship]

theorem Hop.relationship_modifyLastNode (f : NodePattern → NodePattern) (hops : List Hop) :
    (modifyLastNode f hops).map relationship = hops.map relationship := by
  induction hops with
  | nil => rfl
  | cons hop rest ih =>
      cases rest with
      | nil => rfl
      | cons other rest => exact congrArg (hop.relationship :: ·) ih

theorem Pattern.relationships_modifyLastNode (f : NodePattern → NodePattern) (p : Pattern) :
    (p.modifyLastNode f).relationships = p.relationships := by
  unfold modifyLastNode relationships
  split
  next hnone => rw [hnone]
  next => exact Hop.relationship_modifyLastNode f p.hops

/-- Steps on the last node keep all relationships. -/
theorem NodeStep.relationships_foldl (steps : List NodeStep) : ∀ p : Pattern,
    (steps.foldl run p).relationships = p.relationships := by
  induction steps with
  | nil => exact fun _ => rfl
  | cons step rest ih =>
      intro p
      rw [List.foldl_cons, ih]
      cases step <;> exact Pattern.relationships_modifyLastNode _ p

theorem OpenPattern.relationships_closedBy (p : OpenPattern) (node : NodePattern) :
    (p.closedBy node).relationships = p.relationships := by
  simp [closedBy, Pattern.relationships, relationships]

/-- **The relationship of a hop comes behind those that there are.** -/
theorem HopBuilder.relationships_attach (hop : HopBuilder) (p : Pattern)
    (rel : RelationshipPattern) :
    (hop.attach p rel).relationships = p.relationships ++ [rel] := by
  rw [attach, NodeStep.relationships_foldl, OpenPattern.relationships_closedBy]
  rfl

end CypherQuery
