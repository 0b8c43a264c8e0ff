/-
**Steps on a chain are steps on its elements.**

The same steps can be done in two places: on a node or a relationship of its own, or on the chain at
whose end it stands.  It makes no difference.  A step on a chain changes the last element, in the
same way as a step on that element would, and no other; so all steps that come after an element is
attached can be moved in front of it.  What the steps lead to stays the same, be it a pattern or an
error, and so do the records.

How many elements a chain has, and which variables, is settled by what is attached; no step changes
either.

Main definitions:

* `CypherQuery.NodeStep.runNode` — a step on a node of its own;
* `CypherQuery.PatternBuilder.elementwise`, `CypherQuery.OpenPatternBuilder.elementwise` — **the
  steps with all those on a chain moved to its elements**.

Main results:

* `CypherQuery.NodeStep.foldl_run_closedBy` — steps on a pattern are steps on its last node;
* `CypherQuery.PatternBuilder.build_elementwise`, `CypherQuery.OpenPatternBuilder.build_elementwise`
  — **moving steps to the elements changes nothing**;
* `CypherQuery.PatternBuilder.elements_of_build` — the elements of a chain;
* `CypherQuery.steps_on_chains` — **both, for all chains**.
-/

import CypherQuery.Proofs.PathLengths
import CypherQuery.Proofs.Warnings

set_option autoImplicit false

namespace CypherQuery

/-! ### The last element of a chain -/

/-- A pattern is a single node, or an open pattern closed by a node. -/
@[elab_as_elim] theorem Pattern.cases_last {motive : Pattern → Prop}
    (ofNode : ∀ node, motive (.ofNode node))
    (closedBy : ∀ (p : OpenPattern) (node : NodePattern), motive (p.closedBy node))
    (p : Pattern) : motive p := by
  obtain ⟨start, hops⟩ := p
  rcases List.eq_nil_or_concat' hops with rfl | ⟨before, hop, rfl⟩
  · exact ofNode start
  · exact closedBy ⟨⟨start, before⟩, hop.relationship⟩ hop.node

theorem Hop.modifyLastNode_concat (f : NodePattern → NodePattern) (before : List Hop) (hop : Hop) :
    modifyLastNode f (before ++ [hop]) = before ++ [{ hop with node := f hop.node }] := by
  induction before with
  | nil => rfl
  | cons first rest ih =>
      cases rest with
      | nil => rfl
      | cons second rest => exact congrArg (first :: ·) ih

theorem Pattern.modifyLastNode_closedBy (f : NodePattern → NodePattern) (p : OpenPattern)
    (node : NodePattern) : (p.closedBy node).modifyLastNode f = p.closedBy (f node) := by
  have hconcat := Hop.modifyLastNode_concat f p.pattern.hops ⟨p.relationship, node⟩
  unfold modifyLastNode
  split
  next hnone => exact absurd hnone (by simp [OpenPattern.closedBy])
  next => exact congrArg (Pattern.mk p.pattern.start) hconcat

/-- The elements of an open pattern, from left to right. -/
def OpenPattern.chain (p : OpenPattern) : List ChainElement :=
  p.pattern.chain ++ [.relationship p.relationship]

theorem OpenPattern.chain_closedBy (p : OpenPattern) (node : NodePattern) :
    (p.closedBy node).chain = p.chain ++ [.node node] := by
  simp [chain, closedBy, Pattern.chain, Hop.chain]

/-! ### Steps on nodes -/

/-- A step on a node of its own. -/
def NodeStep.runNode (node : NodePattern) : NodeStep → NodePattern
  | .withProperties properties => node.withProperties properties
  | .hideVariable => node.hideVariable
  | .hideLabels => node.hideLabels

namespace NodeStep

/-- A step on a pattern, which writes into its last node, is the step on that node. -/
theorem run_eq_modifyLastNode (p : Pattern) (step : NodeStep) :
    step.run p = p.modifyLastNode step.runNode := by
  cases step <;> rfl

theorem foldl_run_ofNode (steps : List NodeStep) :
    ∀ node, steps.foldl run (.ofNode node) = .ofNode (steps.foldl runNode node) := by
  induction steps with
  | nil => exact fun _ => rfl
  | cons step rest ih =>
      intro node
      rw [List.foldl_cons, List.foldl_cons, run_eq_modifyLastNode]
      exact ih (step.runNode node)

/-- **Steps on a pattern are steps on its last node.** -/
theorem foldl_run_closedBy (p : OpenPattern) (steps : List NodeStep) :
    ∀ node, steps.foldl run (p.closedBy node) = p.closedBy (steps.foldl runNode node) := by
  induction steps with
  | nil => exact fun _ => rfl
  | cons step rest ih =>
      intro node
      rw [List.foldl_cons, List.foldl_cons, run_eq_modifyLastNode,
        Pattern.modifyLastNode_closedBy, ih]

/-- Steps on a pattern change its last node, and no other element. -/
theorem exists_chain_foldl_run (p : Pattern) (steps : List NodeStep) :
    ∃ (before : List ChainElement) (last : NodePattern), p.chain = before ++ [.node last] ∧
      (steps.foldl run p).chain = before ++ [.node (steps.foldl runNode last)] := by
  cases p using Pattern.cases_last with
  | ofNode node =>
      refine ⟨[], node, rfl, ?_⟩
      rw [foldl_run_ofNode]
      rfl
  | closedBy p node =>
      refine ⟨p.chain, node, p.chain_closedBy node, ?_⟩
      rw [foldl_run_closedBy, p.chain_closedBy]

/-- No step changes the variable. -/
theorem identity_foldl_runNode (steps : List NodeStep) :
    ∀ node, (steps.foldl runNode node).identity = node.identity := by
  induction steps with
  | nil => exact fun _ => rfl
  | cons step rest ih =>
      intro node
      rw [List.foldl_cons, ih]
      cases step <;> rfl

end NodeStep

/-! ### Steps on relationships -/

namespace RelationshipStep

/-- No step changes the variable. -/
theorem identity_of_run {rel later : RelationshipPattern} {step : RelationshipStep}
    (h : (step.run rel).result = .ok later) : later.identity = rel.identity := by
  cases step with
  | withLength length =>
      simp only [run, QueryDocument.result_withLength] at h
      cases hinversion : length.inversion? with
      | none =>
          rw [hinversion] at h
          cases h
          rfl
      | some bounds =>
          rw [hinversion] at h
          cases h
  | _ =>
      cases h
      rfl

theorem identity_of_foldlM (steps : List RelationshipStep) :
    ∀ {rel later : RelationshipPattern}, (steps.foldlM run rel).result = .ok later →
      later.identity = rel.identity := by
  induction steps with
  | nil =>
      intro rel later h
      cases h
      rfl
  | cons step rest ih =>
      intro rel later h
      rw [List.foldlM_cons] at h
      obtain ⟨mid, hmid, hrest⟩ := Logged.ok_of_bind h
      rw [ih hrest, identity_of_run hmid]

end RelationshipStep

/-- Steps on an open pattern change its last relationship, and no other element. -/
theorem OpenPattern.foldlM_runOpen (p : OpenPattern) (steps : List RelationshipStep) :
    steps.foldlM RelationshipStep.runOpen p =
      p.pattern.related <$> steps.foldlM RelationshipStep.run p.relationship :=
  RelationshipStep.foldlM_runOpen p.pattern steps p.relationship

/-! ### Moving steps to the elements -/

/-- The opening of a hop with all steps done before the relationship is attached. -/
def OpeningBuilder.elementwise (o : OpeningBuilder) : OpeningBuilder := ⟨o.whole, []⟩

/-- A hop with all steps done on the relationship and on the node before they are attached. -/
def HopBuilder.elementwise (hop : HopBuilder) : HopBuilder where
  opening := hop.opening.elementwise
  node := hop.steps.foldl NodeStep.runNode hop.node
  steps := []

/-- **The steps to a pattern with all those on a chain moved to its elements.** -/
def PatternBuilder.elementwise (b : PatternBuilder) : PatternBuilder where
  start := b.steps.foldl NodeStep.runNode b.start
  steps := []
  hops := b.hops.map HopBuilder.elementwise

/-- **The steps to an open pattern with all those on a chain moved to its elements.** -/
def OpenPatternBuilder.elementwise (b : OpenPatternBuilder) : OpenPatternBuilder where
  pattern := b.pattern.elementwise
  opening := b.opening.elementwise

theorem OpeningBuilder.run_elementwise (o : OpeningBuilder) (p : Pattern) :
    o.elementwise.run p = o.run p := by
  have hwhole : o.elementwise.whole = o.whole :=
    congrArg (RelationshipBuilder.mk o.relationship.identity) (List.append_nil _)
  rw [run_eq, run_eq, hwhole]

theorem HopBuilder.run_elementwise (p : Pattern) (hop : HopBuilder) :
    hop.elementwise.run p = hop.run p := by
  have hattach : ∀ opened : OpenPattern,
      opened.closedBy (hop.steps.foldl NodeStep.runNode hop.node) =
        hop.steps.foldl NodeStep.run (opened.closedBy hop.node) :=
    fun opened => (NodeStep.foldl_run_closedBy opened hop.steps hop.node).symm
  rw [run, run, elementwise, OpeningBuilder.run_elementwise]
  simp only [List.foldl_nil, hattach]

/-- **Moving steps to the elements changes nothing**, neither what they lead to nor the records. -/
theorem PatternBuilder.build_elementwise (b : PatternBuilder) : b.elementwise.build = b.build := by
  have hrun : (fun p (hop : HopBuilder) => hop.elementwise.run p) = HopBuilder.run :=
    funext fun p => funext fun hop => hop.run_elementwise p
  rw [build, build, NodeStep.foldl_run_ofNode, NodeStep.foldl_run_ofNode, elementwise,
    List.foldlM_map, hrun]
  rfl

theorem OpenPatternBuilder.build_elementwise (b : OpenPatternBuilder) :
    b.elementwise.build = b.build := by
  rw [build, build, elementwise, PatternBuilder.build_elementwise]
  simp only [OpeningBuilder.run_elementwise]

/-! ### The elements of a chain -/

/-- The variables of a hop. -/
def HopBuilder.identities (hop : HopBuilder) : List Variable :=
  [hop.opening.relationship.identity, hop.node.identity]

/-- The variables that steps attach, in order. -/
def PatternBuilder.identities (b : PatternBuilder) : List Variable :=
  b.start.identity :: b.hops.flatMap HopBuilder.identities

theorem Pattern.identities_closedBy (p : OpenPattern) (node : NodePattern) :
    (p.closedBy node).identities =
      p.pattern.identities ++ [p.relationship.identity, node.identity] := by
  simp [identities, OpenPattern.closedBy]

/-- The variables are listed in the order in which the elements are written. -/
theorem Pattern.identities_eq_map_chain (p : Pattern) :
    p.identities = p.chain.map fun x => x.element.identity := by
  rw [identities, chain, List.map_cons, Hop.chain, List.map_flatMap]
  rfl

/-- A hop adds a relationship and a node. -/
theorem HopBuilder.elements_of_run {hop : HopBuilder} {p later : Pattern}
    (h : (hop.run p).result = .ok later) :
    later.length = p.length + 1 ∧ later.identities = p.identities ++ hop.identities := by
  rw [result_run] at h
  obtain ⟨rel, hrel, rfl⟩ := map_eq_ok_iff.1 h
  have hidentity : rel.identity = hop.opening.relationship.identity :=
    RelationshipStep.identity_of_foldlM _ hrel
  rw [attach, NodeStep.foldl_run_closedBy, Pattern.identities_closedBy,
    NodeStep.identity_foldl_runNode]
  refine ⟨?_, congrArg (fun v => p.identities ++ [v, hop.node.identity]) hidentity⟩
  exact List.length_append

theorem HopBuilder.elements_of_foldlM (hops : List HopBuilder) : ∀ {p later : Pattern},
    (hops.foldlM HopBuilder.run p).result = .ok later →
      later.length = p.length + hops.length ∧
        later.identities = p.identities ++ hops.flatMap identities := by
  induction hops with
  | nil =>
      intro p later h
      cases h
      exact ⟨rfl, (List.append_nil _).symm⟩
  | cons hop rest ih =>
      intro p later h
      rw [List.foldlM_cons] at h
      obtain ⟨mid, hmid, hrest⟩ := Logged.ok_of_bind h
      obtain ⟨hlength, hidentities⟩ := elements_of_run hmid
      obtain ⟨hlength', hidentities'⟩ := ih hrest
      rw [hlength', hlength, hidentities', hidentities, List.append_assoc, List.length_cons]
      exact ⟨by omega, rfl⟩

/-- **The elements of a chain** are those that were attached. -/
theorem PatternBuilder.elements_of_build {b : PatternBuilder} {p : Pattern}
    (h : b.build.result = .ok p) :
    p.length = b.hops.length ∧ p.identities = b.identities := by
  obtain ⟨hlength, hidentities⟩ := HopBuilder.elements_of_foldlM b.hops h
  rw [NodeStep.foldl_run_ofNode] at hlength hidentities
  refine ⟨hlength.trans (Nat.zero_add _), hidentities.trans ?_⟩
  exact congrArg (· :: _) (NodeStep.identity_foldl_runNode b.steps b.start)

theorem PatternBuilder.length_identities (b : PatternBuilder) :
    b.identities.length = 2 * b.hops.length + 1 := by
  rw [identities, List.length_cons, List.length_flatMap]
  simp [HopBuilder.identities, Nat.mul_comm]

/-- Nothing else than an inverted length is reported. -/
theorem LeadsToLengths.inverted_of_error {α : Type} {set : List (List PathLength)}
    {x : Except BuildError α} {relationships : α → List RelationshipPattern}
    (h : LeadsToLengths set x relationships) {e : BuildError} (hx : x = .error e) :
    ∃ least greatest, e = .invertedLength least greatest ∧ greatest < least := by
  rcases h with ⟨least, greatest, ⟨-, -, -, hlt, -⟩, herror⟩ | ⟨-, a, hok, -⟩
  · rw [hx] at herror
    cases herror
    exact ⟨least, greatest, rfl, hlt⟩
  · rw [hx] at hok
    cases hok

/-! ### All chains -/

/-- **Steps on chains.**  Whatever steps are done on a chain, before and after others, they can be
done on the nodes and relationships before these are attached, in the same order: they lead to the
same pattern, or to the same error, which is that of an inverted length.  Steps on a pattern change
its last node as they would change it alone, and steps on an open pattern its last relationship; the
other elements stay.  A pattern with `n` hops has `2 * n + 1` variables, which are those attached,
in the order in which they are written. -/
theorem steps_on_chains :
    (∀ b : PatternBuilder, b.elementwise.build = b.build ∧
      (∀ e, b.build.result = .error e →
        ∃ least greatest, e = .invertedLength least greatest ∧ greatest < least) ∧
      ∀ p, b.build.result = .ok p →
        p.length = b.hops.length ∧ p.identities.length = 2 * p.length + 1 ∧
          p.identities = b.identities ∧
          p.identities = (p.chain.map fun x => x.element.identity) ∧
          p.render = ChainElement.renderAll [] p.chain) ∧
    (∀ b : OpenPatternBuilder, b.elementwise.build = b.build ∧
      ∀ e, b.build.result = .error e →
        ∃ least greatest, e = .invertedLength least greatest ∧ greatest < least) ∧
    (∀ (p : Pattern) (steps : List NodeStep),
      ∃ (before : List ChainElement) (last : NodePattern), p.chain = before ++ [.node last] ∧
        (steps.foldl NodeStep.run p).chain =
          before ++ [.node (steps.foldl NodeStep.runNode last)]) ∧
    ∀ (p : OpenPattern) (steps : List RelationshipStep),
      steps.foldlM RelationshipStep.runOpen p =
        p.pattern.related <$> steps.foldlM RelationshipStep.run p.relationship := by
  refine ⟨?patterns, ?openPatterns, NodeStep.exists_chain_foldl_run, OpenPattern.foldlM_runOpen⟩
  case patterns =>
    intro b
    refine ⟨b.build_elementwise, fun e => b.leadsToLengths.inverted_of_error, ?_⟩
    intro p hp
    obtain ⟨hlength, hidentities⟩ := PatternBuilder.elements_of_build hp
    refine ⟨hlength, ?_, hidentities, p.identities_eq_map_chain, p.render_eq_renderAll⟩
    rw [hidentities, hlength, b.length_identities]
  case openPatterns =>
    intro b
    exact ⟨b.build_elementwise, fun e => b.leadsToLengths.inverted_of_error⟩

/-- A chain that comes back to its first node, with steps on all of its elements. -/
def steppedLoop : PatternBuilder :=
  let node : Variable := ⟨0, .node, none⟩
  ⟨.ofVariable node, [.hideVariable],
    [⟨⟨⟨⟨1, .relationship, none⟩, [.withLength (.exactly 2)]⟩,
        [.withType "KNOWS", .withLength (.between (some 1) (some 3)), .hideVariable]⟩,
      .ofVariable node, [.withProperties [("id", .placeholder ⟨0, none, .integer 7⟩)]]⟩]⟩

/-- The pattern to which these steps lead. -/
def steppedLoopPattern : Pattern :=
  let node : Variable := ⟨0, .node, none⟩
  ⟨⟨node, [], [], false, true⟩,
    [⟨⟨⟨1, .relationship, none⟩, some "KNOWS", .right, some (.between (some 1) (some 3)), [],
        false, true⟩,
      ⟨node, [], [("id", .placeholder ⟨0, none, .integer 7⟩)], true, true⟩⟩]⟩

/-- The loop, opened again by a relationship whose length is inverted at first. -/
def openedLoop : OpenPatternBuilder :=
  ⟨steppedLoop, ⟨⟨⟨2, .relationship, none⟩, [.hideType]⟩,
    [.withLength (.between (some 4) (some 1)), .withLength .any]⟩⟩

/-- The steps on the loop lead to it as well if they are done on its elements, and the error of the
open one is that of its inverted length. -/
theorem steps_on_steppedLoop :
    steppedLoop.build.result = .ok steppedLoopPattern ∧
      steppedLoop.elementwise.build = steppedLoop.build ∧
      steppedLoopPattern.length = 1 ∧ steppedLoopPattern.identities.length = 3 ∧
      openedLoop.build.result = .error (.invertedLength 4 1) ∧
      ∃ least greatest, BuildError.invertedLength 4 1 = .invertedLength least greatest ∧
        greatest < least := by
  have hloop : steppedLoop.build.result = .ok steppedLoopPattern := rfl
  have hopened : openedLoop.build.result = .error (.invertedLength 4 1) := rfl
  obtain ⟨hpatterns, hopen, -, -⟩ := steps_on_chains
  obtain ⟨hsame, -, helements⟩ := hpatterns steppedLoop
  obtain ⟨hlength, hidentities, -⟩ := helements _ hloop
  exact ⟨hloop, hsame, hlength, hidentities, hopened, (hopen openedLoop).2 _ hopened⟩

end CypherQuery
