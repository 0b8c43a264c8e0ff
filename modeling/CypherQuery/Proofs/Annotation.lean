/-
**Which elements of a pattern are annotated.**

A pattern is written element by element, and the renderer keeps a list of the variables that it has
shown.  What it writes at a place can be said without that list.  A variable is written unless it is
hidden; length and direction are written at every place; and the labels or the type and the
properties are written if the variable is hidden, or if no element before shows the same one.
Nothing else matters: neither the names that the environment holds, nor a variable in the value of a
property.

Main definitions:

* `CypherQuery.WrittenElement` — the parts that are written of an element, and their text;
* `CypherQuery.Pattern.AnnotatesAt` — **the rule**, place by place;
* `CypherQuery.ChainElement.IsWrittenAs` — what the rule says of the parts.

Main results:

* `CypherQuery.Pattern.fill_template_eq` — the text of a pattern is that of its written elements;
* `CypherQuery.ChainElement.getElem?_writtenAll` — what is written of the element at a place;
* `CypherQuery.Pattern.written_of_render` — **patterns are annotated by the rule**.
-/

import CypherQuery.Proofs.Freezing

set_option autoImplicit false

namespace CypherQuery

/-! ### What elements say -/

namespace ChainElement

/-- The labels of a node or the type of a relationship, as they are written; nothing if there are
none or if they are switched off. -/
def annotation? (op : LabelOperator) : ChainElement → Option String
  | .node n =>
      if n.showsLabels = true ∧ n.labels ≠ [] then
        some (":" ++ String.intercalate op.separator (n.labels.map Identifier.escape))
      else none
  | .relationship r =>
      if r.showsType then r.relationType.map fun relationType => ":" ++ Identifier.escape relationType
      else none

/-- How the length of a relationship is written, if it has one. -/
def length? : ChainElement → Option String
  | .node _ => none
  | .relationship r => r.length.map PathLength.render

/-- The direction of a relationship. -/
def direction? : ChainElement → Option Direction
  | .node _ => none
  | .relationship r => some r.direction

/-- The property map of an element, with names that are known. -/
def mapText (ν : Naming) (x : ChainElement) : String :=
  Expression.mapText (x.element.properties.map fun entry =>
    Identifier.escape entry.1 ++ ": " ++ (Construct.ofExpression entry.2).written ν)

end ChainElement

/-! ### What is written of an element -/

/-- **The parts that are written of an element.** -/
structure WrittenElement where
  /-- The name of the variable. -/
  name : Option String
  /-- The labels or the type. -/
  annotation : Option String
  /-- The length. -/
  length : Option String
  /-- The property map. -/
  properties : Option String
  /-- The direction; a node has none. -/
  direction : Option Direction

namespace WrittenElement

/-- The text of the parts before the property map. -/
def head (w : WrittenElement) : String :=
  w.name.getD "" ++ (w.annotation.getD "" ++ w.length.getD "")

/-- The text of the property map; a space stands before it unless it comes first. -/
def mapPart (w : WrittenElement) : String :=
  match w.properties with
  | none => ""
  | some map => (if w.head.isEmpty then "" else " ") ++ map

/-- **The text of the parts.** -/
def text (w : WrittenElement) : String :=
  match w.direction with
  | none => "(" ++ (w.head ++ w.mapPart) ++ ")"
  | some d => d.arrow (w.head ++ w.mapPart)

end WrittenElement

/-- **The rule**: the element at a place is annotated if it hides its variable, or if no element
before it, node or relationship, shows the same variable. -/
def Pattern.AnnotatesAt (p : Pattern) (i : Nat) (x : ChainElement) : Prop :=
  x.element.shown = false ∨ ∀ j < i, ∀ y, p.chain[j]? = some y →
    y.element.shown = true → y.element.identity ≠ x.element.identity

/-- **What is written of an element**, with the names that an environment has given: which parts
there are, and what they say. -/
structure ChainElement.IsWrittenAs (x : ChainElement) (env : Environment) (annotated : Prop)
    (w : WrittenElement) : Prop where
  /-- The name is written unless the variable is hidden. -/
  name : ∀ s, w.name = some s ↔ x.element.shown = true ∧
    ∃ name, env.boundVariables.lookup x.element.identity = some name ∧ s = Identifier.escape name
  /-- Labels and types are written if the element is annotated. -/
  annotation : ∀ s, w.annotation = some s ↔ annotated ∧ x.annotation? env.labelOperator = some s
  /-- Properties are written if the element is annotated. -/
  properties : ∀ s, w.properties = some s ↔
    annotated ∧ x.element.properties ≠ [] ∧ s = x.mapText env.naming
  /-- The length is written in any case. -/
  length : w.length = x.length?
  /-- The direction is written in any case. -/
  direction : w.direction = x.direction?

namespace ChainElement

/-- The parts that are written of an element, given whether it is annotated. -/
def written (ν : Naming) (x : ChainElement) (annotated : Bool) : WrittenElement where
  name := if x.element.shown then some (Identifier.escape (ν.ofVariable x.element.identity))
    else none
  annotation := if annotated then x.annotation? ν.labelOperator else none
  length := x.length?
  properties := if annotated && !x.element.properties.isEmpty then some (x.mapText ν) else none
  direction := x.direction?

/-- What is written of elements, given those before them. -/
def writtenAll (ν : Naming) (earlier : List PatternElement) :
    List ChainElement → List WrittenElement
  | [] => []
  | x :: rest =>
      x.written ν (!x.element.repeats earlier) :: writtenAll ν (earlier ++ [x.element]) rest

/-- **What is written of the element at a place.** -/
theorem getElem?_writtenAll (ν : Naming) (chain : List ChainElement) :
    ∀ (earlier : List PatternElement) (i : Nat), (writtenAll ν earlier chain)[i]? =
      chain[i]?.map fun x =>
        x.written ν (!x.element.repeats (earlier ++ (chain.take i).map element)) := by
  induction chain with
  | nil => intro earlier i; simp [writtenAll]
  | cons x rest ih =>
      intro earlier i
      cases i with
      | zero => simp [writtenAll]
      | succ i => simp [writtenAll, ih]

theorem length_writtenAll (ν : Naming) (chain : List ChainElement) :
    ∀ earlier : List PatternElement, (writtenAll ν earlier chain).length = chain.length := by
  induction chain with
  | nil => intro earlier; rfl
  | cons x rest ih => intro earlier; simp [writtenAll, ih]

end ChainElement

/-! ### The text of an element -/

theorem fill_nameTemplate (ν : Naming) (v : Variable) (shown : Bool) :
    (nameTemplate v shown).fill ν =
      (if shown then some (Identifier.escape (ν.ofVariable v)) else none).getD "" := by
  cases shown
  · rfl
  · simp [nameTemplate, Piece.write]

/-- The property map comes after what was written before it. -/
theorem fill_propertiesTemplate (ν : Naming) (first : Bool) (x : ChainElement) :
    (propertiesTemplate first x.element.properties).fill ν =
      if x.element.properties.isEmpty then "" else (if first then "" else " ") ++ x.mapText ν := by
  have hentries : (Expression.entryTemplates x.element.properties).map (Template.fill ν) =
      x.element.properties.map fun entry =>
        Identifier.escape entry.1 ++ ": " ++ (Construct.ofExpression entry.2).written ν := by
    rw [Expression.entryTemplates_eq_map, List.map_map]
    rfl
  have hmap : (Expression.mapTemplate (Expression.entryTemplates x.element.properties)).fill ν =
      x.mapText ν := by
    simp only [Expression.mapTemplate, Template.fill_append, Template.fill_cons, Template.fill_nil,
      Template.fill_joined, hentries, Piece.write, ChainElement.mapText, Expression.mapText,
      List.cons_append, String.append_assoc, String.append_empty]
  unfold propertiesTemplate
  split
  · rfl
  · cases first <;> simp [hmap, Piece.write]

/-- The text of the labels, as the renderer puts it together. -/
theorem NodePattern.labelText_eq (node : NodePattern) (op : LabelOperator) :
    node.labelText op = ((ChainElement.node node).annotation? op).getD "" := by
  simp only [labelText, shownLabels, ChainElement.annotation?]
  by_cases hshows : node.showsLabels = true
  · by_cases hlabels : node.labels = [] <;> simp [hshows, hlabels]
  · simp [hshows]

theorem NodePattern.fill_labelTemplate (ν : Naming) (node : NodePattern) :
    node.labelTemplate.fill ν = node.labelText ν.labelOperator := by
  have htexts : (node.shownLabels.map fun label => [Piece.text (Identifier.escape label)]).map
      (Template.fill ν) = node.shownLabels.map Identifier.escape := by
    rw [List.map_map]
    exact List.map_congr_left fun label _ => String.append_empty
  unfold labelTemplate labelText
  split
  · rfl
  · rw [Template.fill_cons, Template.fill_joined, htexts]
    rfl

/-- The text of the type and the length, as the renderer puts it together. -/
theorem RelationshipPattern.measureText_eq (rel : RelationshipPattern) (op : LabelOperator) :
    rel.measureText = ((ChainElement.relationship rel).annotation? op).getD "" ++
      (ChainElement.relationship rel).length?.getD "" := by
  simp only [measureText, typeText, shownType, lengthText, ChainElement.annotation?,
    ChainElement.length?]
  cases rel.showsType <;> cases rel.relationType <;> cases rel.length <;> simp

theorem RelationshipPattern.lengthText_eq (rel : RelationshipPattern) :
    rel.lengthText = (ChainElement.relationship rel).length?.getD "" := by
  simp only [lengthText, ChainElement.length?]
  cases rel.length <;> rfl

theorem Direction.fill_arrowTemplate (ν : Naming) (d : Direction) (t : Template) :
    (d.arrowTemplate t).fill ν = d.arrow (t.fill ν) := by
  cases d <;> simp [arrowTemplate, arrow, Piece.write, String.append_assoc]

namespace ChainElement

theorem isEmpty_name_written (ν : Naming) (x : ChainElement) (annotated : Bool) :
    ((x.written ν annotated).name.getD "").isEmpty = !x.element.shown := by
  unfold written
  cases x.element.shown
  · rfl
  · exact Identifier.isEmpty_escape _

/-- The property map of an element, after the other parts. -/
theorem mapPart_written (ν : Naming) (x : ChainElement) (annotated : Bool) :
    (x.written ν annotated).mapPart =
      if annotated then
        (propertiesTemplate (x.written ν annotated).head.isEmpty x.element.properties).fill ν
      else "" := by
  rw [fill_propertiesTemplate]
  unfold WrittenElement.mapPart
  cases annotated <;> cases hproperties : x.element.properties.isEmpty <;>
    simp [written, hproperties]

end ChainElement

theorem NodePattern.fill_template (ν : Naming) (node : NodePattern) (annotated : Bool) :
    (node.template annotated).fill ν =
      ((ChainElement.node node).written ν annotated).text := by
  have hname : (nameTemplate node.identity node.showsVariable).fill ν =
      ((ChainElement.node node).written ν annotated).name.getD "" := fill_nameTemplate ν _ _
  have htext : ((ChainElement.node node).written ν annotated).text =
      "(" ++ (((ChainElement.node node).written ν annotated).head ++
        ((ChainElement.node node).written ν annotated).mapPart) ++ ")" := rfl
  have hempty := ChainElement.isEmpty_name_written ν (.node node) annotated
  rw [htext, ChainElement.mapPart_written]
  cases annotated with
  | false =>
      have hhead : ((ChainElement.node node).written ν false).head =
          ((ChainElement.node node).written ν false).name.getD "" := String.append_empty
      rw [hhead]
      simp [template, hname, Piece.write, String.append_assoc]
  | true =>
      have hhead : ((ChainElement.node node).written ν true).head =
          ((ChainElement.node node).written ν true).name.getD "" ++
            node.labelText ν.labelOperator := by
        rw [labelText_eq, WrittenElement.head]
        exact congrArg _ String.append_empty
      have hfirst : ((ChainElement.node node).written ν true).head.isEmpty =
          (!node.showsVariable && node.shownLabels.isEmpty) := by
        rw [hhead, isEmpty_append, hempty, isEmpty_labelText]
        rfl
      rw [hfirst, hhead]
      simp only [template, annotationTemplate, Template.fill_append, Template.fill_cons, hname,
        fill_labelTemplate, if_true, String.append_assoc]
      rfl

theorem RelationshipPattern.fill_template (ν : Naming) (rel : RelationshipPattern)
    (annotated : Bool) :
    (rel.template annotated).fill ν =
      ((ChainElement.relationship rel).written ν annotated).text := by
  have hname : (nameTemplate rel.identity rel.showsVariable).fill ν =
      ((ChainElement.relationship rel).written ν annotated).name.getD "" := fill_nameTemplate ν _ _
  have htext : ((ChainElement.relationship rel).written ν annotated).text =
      rel.direction.arrow (((ChainElement.relationship rel).written ν annotated).head ++
        ((ChainElement.relationship rel).written ν annotated).mapPart) := rfl
  have hempty := ChainElement.isEmpty_name_written ν (.relationship rel) annotated
  rw [htext, ChainElement.mapPart_written, template, Direction.fill_arrowTemplate,
    Template.fill_append, hname]
  cases annotated with
  | false =>
      have hhead : ((ChainElement.relationship rel).written ν false).head =
          ((ChainElement.relationship rel).written ν false).name.getD "" ++ rel.lengthText := by
        rw [lengthText_eq, WrittenElement.head]
        exact congrArg _ String.empty_append
      rw [hhead]
      simp [Piece.write]
  | true =>
      have hhead : ((ChainElement.relationship rel).written ν true).head =
          ((ChainElement.relationship rel).written ν true).name.getD "" ++ rel.measureText := by
        rw [measureText_eq rel ν.labelOperator]
        rfl
      have hfirst : ((ChainElement.relationship rel).written ν true).head.isEmpty =
          (!rel.showsVariable && rel.measureText.isEmpty) := by
        rw [hhead, isEmpty_append, hempty]
        rfl
      rw [hfirst, hhead]
      simp only [annotationTemplate, Template.fill_cons, if_true, String.append_assoc]
      rfl

/-! ### The text of a chain -/

/-- The elements before a place and the variables that they show are kept in step. -/
theorem Hop.fill_templateAll (ν : Naming) (hops : List Hop) :
    ∀ (shownVariables : List Variable) (earlier : List PatternElement),
      (∀ v, shownVariables.contains v = PatternElement.showsAny earlier v) →
      (Hop.templateAll shownVariables hops).fill ν =
        String.join ((ChainElement.writtenAll ν earlier (Hop.chain hops)).map
          WrittenElement.text) := by
  induction hops with
  | nil => intro shownVariables earlier _; rfl
  | cons hop rest ih =>
      intro shownVariables earlier h
      -- the relationship comes before the node, also among the variables shown
      have hrel := contains_shownBefore h hop.relationship.element
      have hnode := contains_shownBefore hrel hop.node.element
      have hchain : Hop.chain (hop :: rest) =
          .relationship hop.relationship :: .node hop.node :: Hop.chain rest := rfl
      rw [hchain, ChainElement.writtenAll, ChainElement.writtenAll, List.map_cons, List.map_cons,
        String.join_cons, String.join_cons, ← NodePattern.fill_template,
        ← RelationshipPattern.fill_template]
      have hrelAnnotated : hop.relationship.annotatedAfter shownVariables =
          !hop.relationship.element.repeats earlier :=
        isAnnotated_eq_not_repeats h hop.relationship.element
      have hnodeAnnotated : hop.node.annotatedAfter (hop.relationship.extend shownVariables) =
          !hop.node.element.repeats (earlier ++ [hop.relationship.element]) :=
        isAnnotated_eq_not_repeats hrel hop.node.element
      rw [templateAll, Template.fill_append, Template.fill_append, hrelAnnotated, hnodeAnnotated]
      exact congrArg _ (congrArg _ (ih _ _ hnode))

/-- **The text of a pattern is that of its written elements.** -/
theorem Pattern.fill_template_eq (ν : Naming) (p : Pattern) :
    p.template.fill ν =
      String.join ((ChainElement.writtenAll ν [] p.chain).map WrittenElement.text) := by
  have hnone : ∀ v, ([] : List Variable).contains v = PatternElement.showsAny [] v :=
    fun _ => rfl
  have hstart := contains_shownBefore hnone p.start.element
  have hannotated : p.start.annotatedAfter [] = !p.start.element.repeats [] :=
    isAnnotated_eq_not_repeats hnone p.start.element
  have hhops : (Hop.templateAll (p.start.extend []) p.hops).fill ν = _ :=
    Hop.fill_templateAll ν p.hops _ _ hstart
  rw [template, Template.fill_append, hannotated, hhops, NodePattern.fill_template]
  exact String.join_cons.symm

/-! ### The rule -/

/-- An element repeats no variable of the elements before its place exactly if the rule has it
annotated there. -/
theorem Pattern.not_repeats_iff (p : Pattern) (i : Nat) (x : ChainElement) :
    (!x.element.repeats ((p.chain.take i).map ChainElement.element)) = true ↔
      p.AnnotatesAt i x := by
  have hmem : ∀ y, y ∈ p.chain.take i ↔ ∃ j < i, p.chain[j]? = some y := by
    intro y
    rw [List.mem_iff_getElem?]
    refine exists_congr fun j => ?_
    rw [List.getElem?_take]
    split
    next hlt => simp [hlt]
    next hlt => simp [hlt]
  have hshows : PatternElement.showsAny ((p.chain.take i).map ChainElement.element)
      x.element.identity = true ↔
        ∃ j < i, ∃ y, p.chain[j]? = some y ∧ y.element.shown = true ∧
          y.element.identity = x.element.identity := by
    simp only [PatternElement.showsAny, List.any_map, List.any_eq_true, hmem, Function.comp_apply,
      Bool.and_eq_true, beq_iff_eq]
    constructor
    · rintro ⟨y, ⟨j, hj, hy⟩, hshown, heq⟩
      exact ⟨j, hj, y, hy, hshown, heq⟩
    · rintro ⟨j, hj, y, hy, hshown, heq⟩
      exact ⟨y, ⟨j, hj, hy⟩, hshown, heq⟩
  rw [PatternElement.repeats, Bool.not_eq_true', Bool.and_eq_false_iff, ← Bool.not_eq_true
    (PatternElement.showsAny _ _), hshows, AnnotatesAt]
  refine or_congr_right ?_
  push Not
  rfl

/-- What is written of an element whose variable has a name, unless it is hidden. -/
theorem ChainElement.isWrittenAs_written {x : ChainElement} {env : Environment} {annotated : Bool}
    {rule : Prop} (hrule : annotated = true ↔ rule)
    (hname : x.element.shown = true →
      ∃ name, env.boundVariables.lookup x.element.identity = some name) :
    x.IsWrittenAs env rule (x.written env.naming annotated) where
  name s := by
    unfold written
    cases hshown : x.element.shown with
    | false => simp
    | true =>
        obtain ⟨name, hlookup⟩ := hname hshown
        simp [Environment.naming, hlookup, eq_comm]
  annotation s := by
    rw [← hrule]
    cases annotated <;> simp [written, Environment.naming]
  properties s := by
    rw [← hrule]
    cases annotated <;> simp [written, eq_comm (a := s)]
  length := rfl
  direction := rfl

/-- The shown variables of a pattern that was written have names. -/
theorem Pattern.exists_lookup_of_render {p : Pattern} {env : Environment} {text : String}
    (h : (p.render env).result = .ok text) {x : ChainElement} (hx : x ∈ p.chain)
    (hshown : x.element.shown = true) :
    ∃ name, (p.render env).environment.boundVariables.lookup x.element.identity = some name := by
  have hmem : x.element ∈ p.elements := by
    rw [elements_eq_map_chain]
    exact List.mem_map_of_mem hx
  exact Construct.exists_lookup_of_render (c := .ofPattern p) h _
    (PatternElement.variableAt_mem hshown [] hmem)

/-- **Patterns are annotated by the rule.**  The text of a pattern is made of its elements in
order, whatever names the environment holds already; an element is written with its annotations
exactly if the rule says so. -/
theorem Pattern.written_of_render {p : Pattern} {env : Environment} {text : String}
    (h : (p.render env).result = .ok text) :
    ∃ written : List WrittenElement, text = String.join (written.map WrittenElement.text) ∧
      written.length = p.chain.length ∧
      ∀ (i : Nat) (x : ChainElement) (w : WrittenElement),
        p.chain[i]? = some x → written[i]? = some w →
          x.IsWrittenAs (p.render env).environment (p.AnnotatesAt i x) w := by
  refine ⟨ChainElement.writtenAll (p.render env).environment.naming [] p.chain, ?_,
    ChainElement.length_writtenAll _ _ _, ?_⟩
  · rw [← fill_template_eq]
    exact Construct.eq_fill_of_render (c := .ofPattern p) h
  · intro i x w hx hw
    rw [ChainElement.getElem?_writtenAll, hx] at hw
    cases hw
    exact ChainElement.isWrittenAs_written (p.not_repeats_iff i x)
      (exists_lookup_of_render h (List.mem_of_getElem? hx))

/-- A pattern that comes back to a node: first in the value of a property, then as an element with
annotations, then hidden, then as a relationship, and at last with annotations again. -/
def returningPattern : Pattern :=
  let node : Variable := ⟨0, .node, none⟩
  let rel : Variable := ⟨1, .relationship, none⟩
  let known : Parameter := ⟨0, none, .integer 7⟩
  let dropped : Parameter := ⟨1, none, .integer 8⟩
  ⟨⟨⟨2, .node, none⟩, [], [("of", .reference node)], true, true⟩,
    [⟨⟨rel, some "KNOWS", .right, some (.between (some 1) none), [], true, true⟩,
        ⟨node, ["Person"], [("id", .placeholder known)], true, true⟩⟩,
      ⟨⟨rel, some "KNOWS", .left, some (.exactly 2), [], true, true⟩,
        ⟨node, ["Person"], [], false, true⟩⟩,
      ⟨⟨node, some "KNOWS", .undirected, none, [], true, true⟩,
        ⟨node, ["Person"], [("id", .placeholder dropped)], true, true⟩⟩]⟩

/-- The node has its name from a clause before. -/
theorem returningPattern_written :
    let env := ((Pattern.ofNode (.ofVariable ⟨0, .node, none⟩)).render
      (.start "" .colon)).environment
    env.boundVariables.lookup ⟨0, .node, none⟩ = some "this0" ∧
      (returningPattern.render env).result = .ok ("(this1 {of: this0})" ++
        "-[this2:KNOWS*1..]->(this0:Person {id: $param0})" ++
        "<-[this2*2]-(:Person)" ++ "-[this0]-(this0)") ∧
      ∃ written : List WrittenElement,
        "(this1 {of: this0})-[this2:KNOWS*1..]->(this0:Person {id: $param0})" ++
          "<-[this2*2]-(:Person)-[this0]-(this0)" =
            String.join (written.map WrittenElement.text) ∧
        written.length = returningPattern.chain.length ∧
        ∀ (i : Nat) (x : ChainElement) (w : WrittenElement),
          returningPattern.chain[i]? = some x → written[i]? = some w →
            x.IsWrittenAs (returningPattern.render env).environment
              (returningPattern.AnnotatesAt i x) w :=
  ⟨rfl, rfl, Pattern.written_of_render rfl⟩

end CypherQuery
