/-
**The text of a pattern says which pattern it is**, as far as it is written.

In an environment that has named all its identities, a pattern is written with names that each
belong to a single identity.  Its elements come one behind the other, and each is read back whatever
follows; so two patterns with the same text have the same number of hops, and their elements say
the same, one by one.

Main definitions:

* `CypherQuery.PatternElement.pieces` — what an element hands on to the text;
* `CypherQuery.Pattern.IsReadableIn` — **the patterns that can be read in an environment**.

Main results:

* `CypherQuery.Pattern.readPattern_chars` — a chain is read back if its elements are;
* `CypherQuery.Pattern.readPattern_of_render` — **what is written can be read**;
* `CypherQuery.Pattern.printed_eq_of_render_eq` — **patterns with the same text say the same**.
-/

import CypherQuery.Proofs.Quoting.Construct
import CypherQuery.Proofs.Reading.Elements
import CypherQuery.Proofs.Reading.Unambiguous

set_option autoImplicit false

namespace CypherQuery

/-! ### Patterns without what is not written -/

namespace NodePattern

theorem shownLabels_bare (node : NodePattern) : node.bare.shownLabels = [] := ite_self []

/-- A node without annotations is written bare. -/
theorem template_visible (node : NodePattern) (annotated : Bool) :
    (node.visible annotated).template true = node.template annotated := by
  cases annotated with
  | true => rfl
  | false =>
      have hlabels : node.bare.labelTemplate = [] := by
        rw [labelTemplate, shownLabels_bare]
        rfl
      have hnone : node.bare.annotationTemplate = [] := by
        rw [annotationTemplate, hlabels]
        rfl
      change node.bare.template true = node.template false
      rw [template, hnone]
      rfl

end NodePattern

namespace RelationshipPattern

theorem shownType_bare (rel : RelationshipPattern) : rel.bare.shownType = none := ite_self none

/-- A relationship without annotations is written bare, but with its length. -/
theorem template_visible (rel : RelationshipPattern) (annotated : Bool) :
    (rel.visible annotated).template true = rel.template annotated := by
  cases annotated with
  | true => rfl
  | false =>
      have hmeasure : rel.bare.measureText = rel.lengthText := by
        rw [measureText, typeText, shownType_bare]
        exact String.empty_append
      have hlength : rel.bare.annotationTemplate = [.text rel.lengthText] := by
        rw [annotationTemplate, hmeasure]
        rfl
      change rel.bare.template true = rel.template false
      rw [template, hlength]
      rfl

end RelationshipPattern

/-- The template of a hop that is written with all annotations. -/
def Hop.fullTemplate (hop : Hop) : Template :=
  hop.relationship.template true ++ hop.node.template true

theorem Hop.templateAll_eq_flatMap (hops : List Hop) : ∀ earlier : List Variable,
    templateAll earlier hops = (visibleAll earlier hops).flatMap fullTemplate := by
  induction hops with
  | nil => intro earlier; rfl
  | cons hop rest ih =>
      intro earlier
      rw [templateAll, visibleAll, List.flatMap_cons, fullTemplate, ih,
        NodePattern.template_visible, RelationshipPattern.template_visible, List.append_assoc]

theorem Pattern.template_eq (p : Pattern) :
    p.template = p.visible.start.template true ++ p.visible.hops.flatMap Hop.fullTemplate := by
  rw [template, visible, NodePattern.template_visible, Hop.templateAll_eq_flatMap]

/-! ### Chains -/

namespace Reading

/-- **Items are read back to the end of a text**, if each of them is read back whatever follows. -/
theorem readAll_flatMap {α β : Type} {item : Reader α} {written : β → List Char} {value : β → α}
    {bs : List β} (hne : ∀ b ∈ bs, written b ≠ [])
    (hitem : ∀ b ∈ bs, ∀ rest, item (written b ++ rest) = some (value b, rest)) :
    readAll item (bs.flatMap written) = some (bs.map value) := by
  induction bs with
  | nil => simp [readAll]
  | cons b bs ih =>
      rw [List.forall_mem_cons] at hne hitem
      have htail := ih hne.2 hitem.2
      have hhead := hitem.1 (bs.flatMap written)
      -- an item takes at least one character, so that less is left after it
      obtain ⟨c, cs, hb⟩ := List.exists_cons_of_ne_nil hne.1
      rw [List.flatMap_cons]
      rw [hb, List.cons_append] at hhead ⊢
      rw [readAll, hhead]
      simp [htail]

variable {owners : Owners} {ν : Naming} {inner : Reader Expression}

theorem startsWith_node (node : NodePattern) (annotated : Bool) (rest : List Char) :
    StartsWith ['('] ((node.template annotated).chars ν ++ rest) := by
  rw [NodePattern.template, List.cons_append, Template.chars_cons, List.append_assoc, Piece.write]
  exact ⟨'(', by decide, _, rfl⟩

/-- A hop is read back. -/
theorem readHop_chars {hop : Hop} (hrel : hop.relationship.element.ReadsBack owners ν inner)
    (hnode : hop.node.element.ReadsBack owners ν inner) (rest : List Char) :
    readHop owners ν.labelOperator.separator inner (hop.fullTemplate.chars ν ++ rest) =
      some (hop.printed, rest) := by
  have hopens : StartsWith ['('] ((hop.node.template true).chars ν ++ rest) :=
    startsWith_node hop.node true rest
  rw [Hop.fullTemplate, Template.chars_append, List.append_assoc]
  simp only [readHop, readRelationship_chars hrel hopens, readNode_chars hnode,
    Option.bind_eq_bind, Option.bind_some]
  rfl

end Reading

namespace Pattern

/-- **A chain is read back** if its elements are. -/
theorem readPattern_chars {p : Pattern} {owners : Reading.Owners} {ν : Naming}
    {inner : Reading.Reader Expression}
    (h : ∀ x ∈ p.visible.elements, x.ReadsBack owners ν inner) :
    Reading.readPattern owners ν.labelOperator.separator inner (p.template.chars ν) =
      some p.printed := by
  have hstart := h _ List.mem_cons_self
  have hhop : ∀ hop ∈ p.visible.hops, ∀ rest,
      Reading.readHop owners ν.labelOperator.separator inner (hop.fullTemplate.chars ν ++ rest) =
        some (hop.printed, rest) := by
    intro hop hmem rest
    have helement : ∀ x ∈ [hop.relationship.element, hop.node.element], x ∈ p.visible.elements :=
      fun x hx => List.mem_cons_of_mem _ (List.mem_flatMap.2 ⟨hop, hmem, hx⟩)
    exact Reading.readHop_chars (h _ (helement _ (by simp))) (h _ (helement _ (by simp))) rest
  have hne : ∀ hop ∈ p.visible.hops, hop.fullTemplate.chars ν ≠ [] := by
    intro hop _ hnil
    have hopens : Reading.StartsWith ['('] ((hop.node.template true).chars ν ++ []) :=
      Reading.startsWith_node hop.node true []
    obtain ⟨c, -, cs, hnode⟩ := hopens
    rw [Hop.fullTemplate, Template.chars_append, List.append_eq_nil_iff] at hnil
    rw [hnil.2] at hnode
    cases hnode
  have hhops := Reading.readAll_flatMap hne hhop
  rw [← Template.chars_flatMap] at hhops
  have hread := Reading.readNode_chars hstart (Template.chars ν (p.visible.hops.flatMap
    Hop.fullTemplate))
  rw [template_eq, Template.chars_append]
  simp only [Reading.readPattern, hread, hhops, Option.bind_eq_bind, Option.bind_some]
  rfl

end Pattern

/-! ### What elements hand on to the text -/

/-- **What an element hands on to the text**: its variable, if it is shown, and the values of its
properties. -/
def PatternElement.pieces (x : PatternElement) : Template :=
  nameTemplate x.identity x.shown ++ x.properties.flatMap fun entry => entry.2.template

/-- The values of properties are written with them. -/
theorem subset_propertiesTemplate (first : Bool) (properties : List (String × Expression)) :
    (properties.flatMap fun entry => entry.2.template) ⊆ propertiesTemplate first properties := by
  intro piece hpiece
  obtain ⟨entry, hentry, hvalue⟩ := List.mem_flatMap.1 hpiece
  have hne : properties ≠ [] := List.ne_nil_of_mem hentry
  have hpart : entry.2 ∈ (Expression.map properties).parts := by
    rw [Expression.parts_eq]
    exact List.mem_cons_of_mem _ (List.mem_flatMap.2
      ⟨entry.2, List.mem_map_of_mem hentry, Expression.self_mem_parts entry.2⟩)
  have hmap : piece ∈ Expression.mapTemplate (Expression.entryTemplates properties) :=
    Expression.template_subset_of_mem_parts hpart hvalue
  rw [propertiesTemplate, if_neg (by simpa using hne)]
  exact List.mem_append_right _ hmap

theorem NodePattern.pieces_subset (node : NodePattern) :
    node.element.pieces ⊆ node.template true := by
  have hproperties := subset_propertiesTemplate
    (!node.showsVariable && node.shownLabels.isEmpty) node.properties
  intro piece hpiece
  rcases List.mem_append.1 hpiece with hname | hvalue
  · have hname' : piece ∈ nameTemplate node.identity node.showsVariable := hname
    simp [template, hname']
  · simp [template, annotationTemplate, hproperties hvalue]

theorem RelationshipPattern.pieces_subset (rel : RelationshipPattern) :
    rel.element.pieces ⊆ rel.template true := by
  have hproperties := subset_propertiesTemplate
    (!rel.showsVariable && rel.measureText.isEmpty) rel.properties
  intro piece hpiece
  rcases List.mem_append.1 hpiece with hname | hvalue
  · have hname' : piece ∈ nameTemplate rel.identity rel.showsVariable := hname
    simp [template, Direction.arrowTemplate_eq, hname']
  · simp [template, Direction.arrowTemplate_eq, annotationTemplate, hproperties hvalue]

namespace Pattern

theorem pieces_subset (p : Pattern) : ∀ x ∈ p.visible.elements, x.pieces ⊆ p.template := by
  rw [template_eq]
  intro x hx
  rcases List.mem_cons.1 hx with rfl | hx
  · exact List.Subset.trans (NodePattern.pieces_subset _) (List.subset_append_left _ _)
  · obtain ⟨hop, hhop, hx⟩ := List.mem_flatMap.1 hx
    have hfull : hop.fullTemplate ⊆ p.visible.hops.flatMap Hop.fullTemplate :=
      fun piece hpiece => List.mem_flatMap.2 ⟨hop, hhop, hpiece⟩
    have hpieces : x.pieces ⊆ hop.fullTemplate := by
      rw [List.mem_cons, List.mem_singleton] at hx
      rcases hx with rfl | rfl
      · exact List.Subset.trans (RelationshipPattern.pieces_subset _) (List.subset_append_left _ _)
      · exact List.Subset.trans (NodePattern.pieces_subset _) (List.subset_append_right _ _)
    exact List.Subset.trans (List.Subset.trans hpieces hfull) (List.subset_append_right _ _)

end Pattern

/-! ### Patterns that can be read -/

theorem Hop.length_visibleAll (hops : List Hop) : ∀ earlier : List Variable,
    (visibleAll earlier hops).length = hops.length := by
  induction hops with
  | nil => intro earlier; rfl
  | cons hop rest ih =>
      intro earlier
      rw [visibleAll, List.length_cons, List.length_cons, ih]

theorem NodePattern.properties_visible_subset (node : NodePattern) (annotated : Bool) :
    (node.visible annotated).properties ⊆ node.properties := by
  cases annotated with
  | true => exact List.Subset.refl _
  | false => exact List.nil_subset _

theorem RelationshipPattern.properties_visible_subset (rel : RelationshipPattern)
    (annotated : Bool) : (rel.visible annotated).properties ⊆ rel.properties := by
  cases annotated with
  | true => exact List.Subset.refl _
  | false => exact List.nil_subset _

/-- The properties that are written are properties of some element. -/
theorem Hop.properties_visibleAll (hops : List Hop) : ∀ earlier : List Variable,
    ∀ x ∈ elements (visibleAll earlier hops), ∀ entry ∈ x.properties,
      ∃ y ∈ elements hops, entry ∈ y.properties := by
  induction hops with
  | nil => intro earlier x hx; cases hx
  | cons hop rest ih =>
      intro earlier x hx entry hentry
      rcases List.mem_cons.1 hx with rfl | hx
      · exact ⟨hop.relationship.element, List.mem_cons_self,
          hop.relationship.properties_visible_subset _ hentry⟩
      rcases List.mem_cons.1 hx with rfl | hx
      · exact ⟨hop.node.element, List.mem_cons_of_mem _ List.mem_cons_self,
          hop.node.properties_visible_subset _ hentry⟩
      · obtain ⟨y, hy, hentry'⟩ := ih _ x hx entry hentry
        exact ⟨y, List.mem_cons_of_mem _ (List.mem_cons_of_mem _ hy), hentry'⟩

namespace Pattern

/-- The values of the properties that are written are among the expressions of a pattern. -/
theorem mem_expressions_of_visible {p : Pattern} {x : PatternElement}
    (hx : x ∈ p.visible.elements) {entry : String × Expression} (hentry : entry ∈ x.properties) :
    entry.2 ∈ p.expressions := by
  have helement : ∃ y ∈ p.elements, entry ∈ y.properties := by
    rcases List.mem_cons.1 hx with rfl | hx
    · exact ⟨p.start.element, List.mem_cons_self, p.start.properties_visible_subset _ hentry⟩
    · obtain ⟨y, hy, hentry'⟩ := Hop.properties_visibleAll p.hops _ x hx entry hentry
      exact ⟨y, List.mem_cons_of_mem _ hy, hentry'⟩
  obtain ⟨y, hy, hentry'⟩ := helement
  exact List.mem_flatMap.2 ⟨y, hy, List.mem_map_of_mem hentry'⟩

/-- **The patterns that can be read in an environment.** -/
structure IsReadableIn (env : Environment) (p : Pattern) : Prop where
  /-- Every identity that is written has a name already. -/
  named : ∀ o ∈ p.occurrences, (o.lookup env).isSome = true
  /-- Every part of the value of a property is written unambiguously. -/
  parts : ∀ e ∈ p.expressions, ∀ x ∈ e.parts, x.isUnambiguous = true
  /-- No variable in the value of a property has a reserved name. -/
  words : ∀ e ∈ p.expressions, ∀ o ∈ e.occurrences, ∀ name ∈ o.variableName? env,
    name ∉ Reading.reservedWords

section

variable {env : Environment} (henv : env.IsReachable) {p : Pattern} (hp : p.IsReadableIn env)
  {text : String} (h : (p.render env).result = .ok text)

include h in
theorem result_run_template : (p.template.run env).result = .ok text := by
  rw [← quiet_render, BuildM.result_quiet]
  exact h

include henv hp h

/-- The elements of a pattern that is written are read back. -/
theorem readsBack_of_render {n : Nat} (hn : sizeOf p.expressions ≤ n) :
    ∀ x ∈ p.visible.elements, x.ReadsBack (Reading.Owners.ofEnvironment env) env.naming
      (Reading.readExpression (Reading.Owners.ofEnvironment env) n) := by
  have hnamed : ∀ o ∈ p.template.occurrences, (o.lookup env).isSome = true := by
    rw [occurrences_template]
    exact hp.named
  intro x hx
  have hpieces := p.pieces_subset x hx
  constructor
  · intro hshown
    have hname : Piece.variableName x.identity ∈ p.template :=
      hpieces (List.mem_append_left _ (by simp [nameTemplate, hshown]))
    exact Reading.variableOf_naming henv (hnamed _ (List.mem_filterMap.2 ⟨_, hname, rfl⟩))
  · intro entry hentry following hends
    have hmem := mem_expressions_of_visible hx hentry
    -- the value stands in the text, so it has no fault, and its identities have names
    have hvalue : entry.2.template ⊆ p.template := fun piece hpiece =>
      hpieces (List.mem_append_right _ (List.mem_flatMap.2 ⟨entry, hentry, hpiece⟩))
    have hreadable : entry.2.IsReadableIn env := by
      refine ⟨hp.parts _ hmem, fun o ho => hnamed o ?_, hp.words _ hmem⟩
      rw [← Expression.occurrences_template] at ho
      exact List.filterMap_subset _ hvalue ho
    have hlegible := Expression.isLegible_of_mem_parts henv hreadable fun fault hfault =>
      Template.fault_not_mem_of_ok (result_run_template h) fault (hvalue hfault)
    have hsize := List.sizeOf_lt_of_mem hmem
    exact (Reading.readsBack_of_isLegible hlegible).whole n following (by omega) hends

/-- **What is written can be read.** -/
theorem readPattern_of_render {n : Nat} (hn : sizeOf p.expressions ≤ n) :
    Reading.readPattern (Reading.Owners.ofEnvironment env) env.labelOperator.separator
      (Reading.readExpression (Reading.Owners.ofEnvironment env) n) text.toList =
        some p.printed := by
  have hread := readPattern_chars (readsBack_of_render henv hp h hn)
  have hnamed := hp.named
  rw [← occurrences_template] at hnamed
  rw [Template.eq_fill_of_named (result_run_template h) hnamed]
  exact hread

end

/-- **Patterns with the same text say the same**: they have the same number of hops, and element by
element the same variable or none, the same labels or type, the same direction and length, and the
same properties in the same order.  Lengths without bounds count as any number, and the values of
properties are compared by their normal forms. -/
theorem printed_eq_of_render_eq {env : Environment} (henv : env.IsReachable) {a b : Pattern}
    (ha : a.IsReadableIn env) (hb : b.IsReadableIn env) {text : String}
    (hatext : (a.render env).result = .ok text) (hbtext : (b.render env).result = .ok text) :
    a.length = b.length ∧ a.printed = b.printed := by
  -- the same text is read twice, deep enough for the values of either pattern
  have hreada := a.readPattern_of_render henv ha hatext
    (Nat.le_max_left (sizeOf a.expressions) (sizeOf b.expressions))
  have hreadb := b.readPattern_of_render henv hb hbtext
    (Nat.le_max_right (sizeOf a.expressions) (sizeOf b.expressions))
  have hprinted : a.printed = b.printed := by
    rw [hreada] at hreadb
    exact Option.some.inj hreadb
  have hlength : ∀ p : Pattern, p.printed.hops.length = p.length := by
    intro p
    rw [Pattern.printed, List.length_map]
    exact Hop.length_visibleAll p.hops _
  refine ⟨?_, hprinted⟩
  rw [← hlength, ← hlength, hprinted]

/-- A node with a name that is quoted. -/
def loopNode : Variable := ⟨0, .node, some "a node"⟩

/-- A relationship without a name. -/
def loopRelationship : Variable := ⟨1, .relationship, none⟩

/-- A loop of any length, whose labels at its end are left out. -/
def labelledLoop : Pattern :=
  ⟨⟨loopNode, ["In"], [("\x60k", .identityOf loopNode)], true, true⟩,
    [⟨⟨loopRelationship, some "TO", .undirected, some .any, [], true, true⟩,
      ⟨loopNode, ["Out", "In"], [], true, true⟩⟩]⟩

/-- A loop without bounds, whose properties at its end are left out. -/
def unboundedLoop : Pattern :=
  ⟨⟨loopNode, ["In"], [("\x60k", .application .conjunction [.call "id" [.reference loopNode]])],
      true, true⟩,
    [⟨⟨loopRelationship, some "TO", .undirected, some (.between none none), [], true, true⟩,
      ⟨loopNode, [], [("k", .literal .null)], true, true⟩⟩]⟩

/-- The text of both. -/
def loopText : String :=
  "(\x60a node\x60:In \x7b\x60\x60\x60k\x60: id(\x60a node\x60)\x7d)" ++
    "-[this0:TO*]-(\x60a node\x60)"

/-- The two loops say the same. -/
theorem printed_labelledLoop :
    let env := (Environment.start "" .colon).after [.name loopNode, .name loopRelationship]
    labelledLoop ≠ unboundedLoop ∧ (labelledLoop.render env).result = .ok loopText ∧
      (unboundedLoop.render env).result = .ok loopText ∧
      labelledLoop.length = unboundedLoop.length ∧
      labelledLoop.printed = unboundedLoop.printed :=
  ⟨by simp [labelledLoop, unboundedLoop], rfl, rfl,
    printed_eq_of_render_eq ⟨"", .colon, [.name loopNode, .name loopRelationship], rfl⟩
      ⟨by decide, by decide, by decide⟩ ⟨by decide, by decide, by decide⟩ rfl rfl⟩

end Pattern

end CypherQuery
