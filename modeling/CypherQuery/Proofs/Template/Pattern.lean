/-
**Templates of patterns.**

An element of a pattern is written with its annotations unless it shows a variable that an earlier
element of the same pattern shows.  Which elements do is known from the tree alone, so a pattern
has a template.

Main definitions:

* `CypherQuery.Pattern.template` — **the template of a pattern**;
* `CypherQuery.PatternElement`, `CypherQuery.PatternElement.repeats` — the elements of a pattern,
  and which of them show a variable again;
* `CypherQuery.ChainElement`, `CypherQuery.Pattern.chain` — the elements with all they say;
* `CypherQuery.Pattern.occurrences` — the identities of a pattern, from left to right.

Main results:

* `CypherQuery.Pattern.quiet_render` — **writing a pattern is running its template**, apart from
  log records below level `debug`;
* `CypherQuery.Pattern.occurrences_template` — the template has the identities of the pattern.
-/

import CypherQuery.Pattern.Rendering
import CypherQuery.Proofs.Template.Expression

set_option autoImplicit false

namespace CypherQuery

/-! ### Templates -/

/-- The template of the name of a variable; nothing for a hidden one. -/
def nameTemplate (v : Variable) (shown : Bool) : Template :=
  if shown then [.variableName v] else []

/-- The template of a property map; a space stands before it unless it comes first. -/
def propertiesTemplate (first : Bool) (properties : List (String × Expression)) : Template :=
  if properties.isEmpty then []
  else
    (if first then [] else [.text " "]) ++
      Expression.mapTemplate (Expression.entryTemplates properties)

namespace NodePattern

/-- The template of the labels of a node. -/
def labelTemplate (node : NodePattern) : Template :=
  if node.shownLabels.isEmpty then []
  else
    .text ":" ::
      Template.joined .labelSign
        (node.shownLabels.map fun label => [.text (Identifier.escape label)])

/-- The template of the annotations of a node. -/
def annotationTemplate (node : NodePattern) : Template :=
  node.labelTemplate ++
    propertiesTemplate (!node.showsVariable && node.shownLabels.isEmpty) node.properties

/-- **The template of a node.** -/
def template (node : NodePattern) (annotated : Bool) : Template :=
  .text "(" :: (nameTemplate node.identity node.showsVariable ++
    if annotated then node.annotationTemplate else []) ++ [.text ")"]

end NodePattern

/-- The template of a relationship that points somewhere, from what stands in its brackets. -/
def Direction.arrowTemplate (d : Direction) (t : Template) : Template :=
  match d with
  | .left => .text "<-[" :: t ++ [.text "]-"]
  | .right => .text "-[" :: t ++ [.text "]->"]
  | .undirected => .text "-[" :: t ++ [.text "]-"]

namespace RelationshipPattern

/-- The type and the length of a relationship. -/
def measureText (rel : RelationshipPattern) : String := rel.typeText ++ rel.lengthText

/-- The template of what stands after the name of a relationship. -/
def annotationTemplate (rel : RelationshipPattern) : Template :=
  .text rel.measureText ::
    propertiesTemplate (!rel.showsVariable && rel.measureText.isEmpty) rel.properties

/-- **The template of a relationship.** -/
def template (rel : RelationshipPattern) (annotated : Bool) : Template :=
  rel.direction.arrowTemplate (nameTemplate rel.identity rel.showsVariable ++
    if annotated then rel.annotationTemplate else [.text rel.lengthText])

end RelationshipPattern

/-- The template of the hops of a pattern, given the variables shown before them. -/
def Hop.templateAll (earlier : List Variable) : List Hop → Template
  | [] => []
  | ⟨rel, node⟩ :: rest =>
      rel.template (rel.annotatedAfter earlier) ++
        (node.template (node.annotatedAfter (rel.extend earlier)) ++
          templateAll (node.extend (rel.extend earlier)) rest)

/-- **The template of a pattern.** -/
def Pattern.template (p : Pattern) : Template :=
  p.start.template (p.start.annotatedAfter []) ++ Hop.templateAll (p.start.extend []) p.hops

/-! ### Identities -/

/-- What an element of a pattern shows of its variable, and its properties. -/
structure PatternElement where
  /-- The variable. -/
  identity : Variable
  /-- Whether the variable is written. -/
  shown : Bool
  /-- The properties. -/
  properties : List (String × Expression)

/-- A node as an element of a pattern. -/
def NodePattern.element (node : NodePattern) : PatternElement :=
  ⟨node.identity, node.showsVariable, node.properties⟩

/-- A relationship as an element of a pattern. -/
def RelationshipPattern.element (rel : RelationshipPattern) : PatternElement :=
  ⟨rel.identity, rel.showsVariable, rel.properties⟩

/-- The elements of hops, from left to right. -/
def Hop.elements (hops : List Hop) : List PatternElement :=
  hops.flatMap fun hop => [hop.relationship.element, hop.node.element]

/-- The elements of a pattern, from left to right. -/
def Pattern.elements (p : Pattern) : List PatternElement := p.start.element :: Hop.elements p.hops

/-- An element of a pattern with all it says: a node or a relationship. -/
inductive ChainElement where
  /-- A node. -/
  | node (n : NodePattern)
  /-- A relationship. -/
  | relationship (r : RelationshipPattern)

/-- What an element shows of its variable, and its properties. -/
def ChainElement.element : ChainElement → PatternElement
  | .node n => n.element
  | .relationship r => r.element

/-- The elements of hops, from left to right, with all they say. -/
def Hop.chain (hops : List Hop) : List ChainElement :=
  hops.flatMap fun hop => [.relationship hop.relationship, .node hop.node]

/-- **The elements of a pattern, from left to right**, with all they say. -/
def Pattern.chain (p : Pattern) : List ChainElement := .node p.start :: Hop.chain p.hops

theorem Pattern.elements_eq_map_chain (p : Pattern) :
    p.elements = p.chain.map ChainElement.element := by
  rw [chain, Hop.chain, List.map_cons, List.map_flatMap]
  rfl

namespace PatternElement

/-- Whether one of several elements shows a variable. -/
def showsAny (elements : List PatternElement) (v : Variable) : Bool :=
  elements.any fun y => y.shown && y.identity == v

/-- Whether an element shows a variable that an earlier element shows. -/
def repeats (earlier : List PatternElement) (x : PatternElement) : Bool :=
  x.shown && showsAny earlier x.identity

/-- **The identities of an element**: its variable unless it is hidden, and those of its properties
unless it shows its variable again. -/
def occurrences (earlier : List PatternElement) (x : PatternElement) : List Occurrence :=
  (if x.shown then [.variableAt x.identity] else []) ++
    if x.repeats earlier then [] else Expression.occurrencesEntries x.properties

/-- The identities of elements, given those before them. -/
def occurrencesAll (earlier : List PatternElement) : List PatternElement → List Occurrence
  | [] => []
  | x :: rest => x.occurrences earlier ++ occurrencesAll (earlier ++ [x]) rest

/-- The variables of the elements of a pattern stand in it, unless they are hidden. -/
theorem variableAt_mem {x : PatternElement} {elements : List PatternElement}
    (hshown : x.shown = true) : ∀ earlier, x ∈ elements →
      .variableAt x.identity ∈ occurrencesAll earlier elements := by
  induction elements with
  | nil => intro earlier hx; cases hx
  | cons y rest ih =>
      intro earlier hx
      rw [occurrencesAll, List.mem_append]
      rcases List.mem_cons.1 hx with rfl | hrest
      · left
        simp [occurrences, hshown]
      · exact Or.inr (ih _ hrest)

/-- The identities of elements are their variables and those of their properties. -/
theorem mem_of_mem_occurrencesAll {o : Occurrence} {elements : List PatternElement} :
    ∀ {earlier : List PatternElement}, o ∈ occurrencesAll earlier elements →
      ∃ x ∈ elements, o = .variableAt x.identity ∨
        o ∈ Expression.occurrencesEntries x.properties := by
  induction elements with
  | nil => intro earlier h; cases h
  | cons x rest ih =>
      intro earlier h
      rw [occurrencesAll, List.mem_append] at h
      rcases h with hfirst | hrest
      · refine ⟨x, List.mem_cons_self, ?_⟩
        rw [occurrences, List.mem_append] at hfirst
        rcases hfirst with hname | hproperties
        · left
          split at hname
          · exact List.mem_singleton.1 hname
          · cases hname
        · right
          split at hproperties
          · cases hproperties
          · exact hproperties
      · obtain ⟨y, hy, hcases⟩ := ih hrest
        exact ⟨y, List.mem_cons_of_mem x hy, hcases⟩

end PatternElement

/-- **The identities of a pattern, from left to right.** -/
def Pattern.occurrences (p : Pattern) : List Occurrence :=
  PatternElement.occurrencesAll [] p.elements

/-! ### Running the template of a pattern -/

/-- No name is written as the empty text. -/
theorem Identifier.isEmpty_escape (name : String) : (Identifier.escape name).isEmpty = false := by
  obtain ⟨c, cs, hname, -⟩ := Identifier.escape_eq_cons name
  rw [String.isEmpty_eq_false_iff]
  intro hempty
  rw [hempty] at hname
  cases hname

theorem isEmpty_append (s t : String) : (s ++ t).isEmpty = (s.isEmpty && t.isEmpty) := by
  rw [Bool.eq_iff_iff, Bool.and_eq_true]
  simp

theorem quiet_renderProperties (before : String) (properties : List (String × Expression)) :
    BuildM.quiet (renderProperties before properties) =
      (propertiesTemplate before.isEmpty properties).run >>= fun s => pure (before ++ s) := by
  have hmap : BuildM.quiet (Expression.renderMap properties) =
      (Expression.mapTemplate (Expression.entryTemplates properties)).run :=
    Expression.quiet_render (.map properties)
  unfold renderProperties propertiesTemplate
  cases properties.isEmpty
  · simp only [Bool.false_eq_true, if_false, BuildM.quiet_bind, hmap, Template.run_append]
    cases before.isEmpty <;> simp [-bind_pure_comp, String.append_assoc]
  · simp

theorem quiet_warnDropped (sort : ElementSort) (writtenName : String) (dropped : Bool) :
    BuildM.quiet (warnDropped sort writtenName dropped) = pure () := by
  cases dropped
  · rfl
  · exact BuildM.quiet_report (LogLevel.noConfusion : LogLevel.warn ≠ .debug)

theorem quiet_shownName (v : Variable) (shown : Bool) :
    BuildM.quiet (shownName v shown) = (nameTemplate v shown).run := by
  cases shown
  · rfl
  · simp [shownName, nameTemplate, Piece.run]

/-- What depends on a written name only through its being empty depends on whether the variable is
shown. -/
theorem nameTemplate_bind_isEmpty {α : Type} (v : Variable) (shown : Bool)
    (f : Bool → String → BuildM α) :
    ((nameTemplate v shown).run >>= fun name => f name.isEmpty name) =
      (nameTemplate v shown).run >>= fun name => f (!shown) name := by
  cases shown
  · simp only [nameTemplate, Bool.false_eq_true, if_false, Template.run_nil, pure_bind]
    rfl
  · simp only [nameTemplate, if_true, Template.run_singleton, Piece.run, Variable.render,
      bind_assoc, pure_bind, Identifier.isEmpty_escape, Bool.not_true]

namespace NodePattern

theorem isEmpty_labelText (node : NodePattern) (op : LabelOperator) :
    (node.labelText op).isEmpty = node.shownLabels.isEmpty := by
  unfold labelText
  cases h : node.shownLabels.isEmpty
  · simp [isEmpty_append]
  · simp

/-- The signs between labels are all the same. -/
theorem run_joined_labelSign (labels : List String) :
    (Template.joined .labelSign (labels.map fun label => [.text (Identifier.escape label)])).run =
      BuildM.ask fun env =>
        String.intercalate env.labelOperator.separator (labels.map Identifier.escape) := by
  induction labels with
  | nil => rfl
  | cons label rest ih =>
      cases rest with
      | nil => simp [Template.joined]; rfl
      | cons other rest =>
          simp only [List.map_cons] at ih ⊢
          rw [Template.joined_cons_cons, Template.run_append, Template.run_cons .labelSign, ih]
          simp [-bind_pure_comp, Piece.run, BuildM.ask_bind_pure, BuildM.ask_bind_ask,
            String.intercalate_cons_cons, String.append_assoc]

theorem run_labelTemplate (node : NodePattern) :
    node.labelTemplate.run =
      BuildM.ask Environment.labelOperator >>= fun op => pure (node.labelText op) := by
  rw [BuildM.ask_bind_pure]
  unfold labelTemplate labelText
  cases node.shownLabels.isEmpty
  · simp only [Bool.false_eq_true, if_false, Template.run_text_cons, run_joined_labelSign]
    rfl
  · rfl

/-- **Writing a node is running its template**, apart from log records. -/
theorem quiet_render (node : NodePattern) (annotated : Bool) :
    BuildM.quiet (node.render annotated) = (node.template annotated).run := by
  have hreport : ∀ text : String,
      BuildM.quiet (BuildM.report (.elementWritten .node text)) = pure () := fun text =>
    BuildM.quiet_report (LogLevel.noConfusion : LogLevel.trace ≠ .debug)
  cases annotated with
  | false =>
      simp [-bind_pure_comp, render, template, renderBare, quiet_shownName, quiet_warnDropped,
        hreport, Template.run_text_cons, String.append_assoc]
  | true =>
      -- whether a space stands before the map is known before the name is
      have hspace := nameTemplate_bind_isEmpty node.identity node.showsVariable fun none name =>
        BuildM.ask Environment.labelOperator >>= fun op =>
          (propertiesTemplate (none && node.shownLabels.isEmpty) node.properties).run >>= fun s =>
            pure ("(" ++ (name ++ (node.labelText op ++ (s ++ ")"))))
      simpa [-bind_pure_comp, render, template, renderAnnotated, annotationTemplate,
        quiet_shownName, quiet_renderProperties, hreport, Template.run_text_cons,
        run_labelTemplate, isEmpty_append, isEmpty_labelText, String.append_assoc] using hspace

end NodePattern

theorem Direction.run_arrowTemplate (d : Direction) (t : Template) :
    (d.arrowTemplate t).run = t.run >>= fun text => pure (d.arrow text) := by
  cases d <;>
    simp [-bind_pure_comp, arrowTemplate, arrow, Template.run_cons, String.append_assoc]

/-- **Writing a relationship is running its template**, apart from log records. -/
theorem RelationshipPattern.quiet_render (rel : RelationshipPattern) (annotated : Bool) :
    BuildM.quiet (rel.render annotated) = (rel.template annotated).run := by
  have hreport : ∀ text : String,
      BuildM.quiet (BuildM.report (.elementWritten .relationship text)) = Pure.pure () :=
    fun text => BuildM.quiet_report (LogLevel.noConfusion : LogLevel.trace ≠ .debug)
  cases annotated with
  | false =>
      simp [-bind_pure_comp, render, template, renderBare, quiet_shownName, quiet_warnDropped,
        hreport, Direction.run_arrowTemplate]
  | true =>
      -- whether a space stands before the map is known before the name is
      have hspace := nameTemplate_bind_isEmpty rel.identity rel.showsVariable fun none name =>
        (propertiesTemplate (none && rel.measureText.isEmpty) rel.properties).run >>= fun s =>
          pure (rel.direction.arrow (name ++ (rel.measureText ++ s)))
      simpa [-bind_pure_comp, render, template, renderAnnotated, annotationTemplate, measureText,
        quiet_shownName, quiet_renderProperties, hreport, Direction.run_arrowTemplate,
        Template.run_cons, isEmpty_append, String.append_assoc] using hspace

theorem Hop.quiet_renderAll (hops : List Hop) : ∀ earlier : List Variable,
    BuildM.quiet (Hop.renderAll earlier hops) = (Hop.templateAll earlier hops).run := by
  induction hops with
  | nil => intro earlier; rfl
  | cons hop rest ih =>
      intro earlier
      simp [-bind_pure_comp, renderAll, templateAll, NodePattern.quiet_render,
        RelationshipPattern.quiet_render, ih, String.append_assoc]

/-- **Writing a pattern is running its template**, apart from log records. -/
theorem Pattern.quiet_render (p : Pattern) : BuildM.quiet p.render = p.template.run := by
  simp [-bind_pure_comp, render, template, NodePattern.quiet_render, Hop.quiet_renderAll]

/-! ### The identities of the template of a pattern -/

theorem occurrences_nameTemplate (v : Variable) (shown : Bool) :
    (nameTemplate v shown).occurrences = if shown then [.variableAt v] else [] := by
  cases shown <;> rfl

theorem occurrences_propertiesTemplate (first : Bool) (properties : List (String × Expression)) :
    (propertiesTemplate first properties).occurrences =
      Expression.occurrencesEntries properties := by
  have hmap : (Expression.mapTemplate (Expression.entryTemplates properties)).occurrences =
      Expression.occurrencesEntries properties :=
    Expression.occurrences_template (.map properties)
  unfold propertiesTemplate
  cases properties with
  | nil => rfl
  | cons entry rest => cases first <;> simpa using hmap

theorem NodePattern.occurrences_labelTemplate (node : NodePattern) :
    node.labelTemplate.occurrences = [] := by
  unfold labelTemplate
  split
  · rfl
  · rw [Template.occurrences_text_cons, Template.occurrences_joined rfl]
    simp

/-- An element is written with its annotations unless it shows its variable again. -/
theorem isAnnotated_eq_not_repeats {shownVariables : List Variable}
    {earlier : List PatternElement}
    (h : ∀ v, shownVariables.contains v = PatternElement.showsAny earlier v)
    (x : PatternElement) :
    isAnnotated shownVariables x.identity x.shown = !x.repeats earlier := by
  rw [isAnnotated, PatternElement.repeats, h, Bool.not_and]

/-- The variables shown up to and including an element. -/
theorem contains_shownBefore {shownVariables : List Variable} {earlier : List PatternElement}
    (h : ∀ v, shownVariables.contains v = PatternElement.showsAny earlier v)
    (x : PatternElement) (v : Variable) :
    (shownBefore shownVariables x.identity x.shown).contains v =
      PatternElement.showsAny (earlier ++ [x]) v := by
  have hshows : PatternElement.showsAny (earlier ++ [x]) v =
      (PatternElement.showsAny earlier v || (x.shown && x.identity == v)) := by
    simp [PatternElement.showsAny]
  rw [hshows, ← h v]
  cases hx : x.shown
  · simp [shownBefore]
  · simp only [shownBefore, if_true, List.contains_cons, Bool.true_and]
    rw [Bool.or_comm, Bool.beq_comm]

theorem NodePattern.occurrences_template {shownVariables : List Variable}
    {earlier : List PatternElement}
    (h : ∀ v, shownVariables.contains v = PatternElement.showsAny earlier v)
    (node : NodePattern) :
    (node.template (node.annotatedAfter shownVariables)).occurrences =
      node.element.occurrences earlier := by
  have hannotated : node.annotatedAfter shownVariables = !node.element.repeats earlier :=
    isAnnotated_eq_not_repeats h node.element
  rw [hannotated, PatternElement.occurrences]
  cases node.element.repeats earlier
  · simp only [template, occurrences_nameTemplate, annotationTemplate, occurrences_labelTemplate,
      occurrences_propertiesTemplate, List.cons_append, Template.occurrences_text_cons,
      Template.occurrences_append, Bool.not_false, if_true, List.nil_append]
    exact List.append_nil _
  · simp only [template, occurrences_nameTemplate, List.cons_append,
      Template.occurrences_text_cons, Template.occurrences_append, Bool.not_true]
    exact List.append_nil _

theorem RelationshipPattern.occurrences_template {shownVariables : List Variable}
    {earlier : List PatternElement}
    (h : ∀ v, shownVariables.contains v = PatternElement.showsAny earlier v)
    (rel : RelationshipPattern) :
    (rel.template (rel.annotatedAfter shownVariables)).occurrences =
      rel.element.occurrences earlier := by
  have hannotated : rel.annotatedAfter shownVariables = !rel.element.repeats earlier :=
    isAnnotated_eq_not_repeats h rel.element
  have harrow : ∀ t : Template,
      (rel.direction.arrowTemplate t).occurrences = t.occurrences := by
    intro t
    cases rel.direction <;> simp [Direction.arrowTemplate]
  rw [hannotated, PatternElement.occurrences]
  cases rel.element.repeats earlier
  · simp only [template, harrow, occurrences_nameTemplate, annotationTemplate,
      occurrences_propertiesTemplate, Template.occurrences_text_cons,
      Template.occurrences_append, Bool.not_false, if_true]
    rfl
  · simp only [template, harrow, occurrences_nameTemplate, Template.occurrences_append,
      Bool.not_true]
    rfl

/-- The elements before an element and the variables that they show are kept in step. -/
theorem Hop.occurrences_templateAll (hops : List Hop) :
    ∀ (shownVariables : List Variable) (earlier : List PatternElement),
      (∀ v, shownVariables.contains v = PatternElement.showsAny earlier v) →
      (Hop.templateAll shownVariables hops).occurrences =
        PatternElement.occurrencesAll earlier (Hop.elements hops) := by
  induction hops with
  | nil => intro shownVariables earlier _; rfl
  | cons hop rest ih =>
      intro shownVariables earlier h
      -- the relationship comes before the node, also among the variables shown
      have hrel := contains_shownBefore h hop.relationship.element
      have hnode := contains_shownBefore hrel hop.node.element
      have helements : Hop.elements (hop :: rest) =
          hop.relationship.element :: hop.node.element :: Hop.elements rest := rfl
      rw [helements]
      simp only [templateAll, Template.occurrences_append, PatternElement.occurrencesAll,
        RelationshipPattern.occurrences_template h]
      rw [← ih _ _ hnode, ← NodePattern.occurrences_template hrel]
      rfl

/-- **The template of a pattern has the identities of the pattern**, in the same order. -/
theorem Pattern.occurrences_template (p : Pattern) : p.template.occurrences = p.occurrences := by
  have hnone : ∀ v, ([] : List Variable).contains v = PatternElement.showsAny [] v :=
    fun _ => rfl
  have hstart := contains_shownBefore hnone p.start.element
  rw [template, Template.occurrences_append, NodePattern.occurrences_template hnone]
  simp only [occurrences, elements, PatternElement.occurrencesAll]
  rw [← Hop.occurrences_templateAll p.hops _ _ hstart]
  rfl

end CypherQuery
