/-
**Nothing breaks out of its quotes.**

Labels, types and the keys of properties are written between quotes where they need it, like the
names and literals in expressions; and the brackets of patterns are closed.  So the text of every
build is balanced.

Main definitions:

* `CypherQuery.Construct.isSafe` — whether what a construct writes as it stands is harmless.

Main results:

* `CypherQuery.Construct.isNeutral_template` — the templates of all constructs are neutral;
* `CypherQuery.isBalanced_of_build` — **the text of a build is balanced**.
-/

import CypherQuery.Proofs.BuildEnd
import CypherQuery.Proofs.Quoting.Expression
import CypherQuery.Proofs.Template.Construct

set_option autoImplicit false

namespace CypherQuery

open Scanner (isIdle)

/-! ### Safe constructs -/

/-- Whether a construct writes nothing harmful as it stands. -/
def Construct.isSafe (c : Construct) : Bool :=
  c.expressions.all fun e => e.parts.all Expression.isSafe

/-! ### Patterns -/

theorem isNeutral_nameTemplate (v : Variable) (shown : Bool) :
    (nameTemplate v shown).IsNeutral := by
  cases shown
  · exact Template.isNeutral_nil
  · exact Template.isNeutral_variableName v

theorem isNeutral_propertiesTemplate (first : Bool) {properties : List (String × Expression)}
    (h : ∀ entry ∈ properties, entry.2.template.IsNeutral) :
    (propertiesTemplate first properties).IsNeutral := by
  unfold propertiesTemplate
  split
  · exact Template.isNeutral_nil
  · have hmap := Expression.isNeutral_mapTemplate h
    cases first
    · exact hmap.text_cons (by decide)
    · exact hmap

namespace NodePattern

theorem isNeutral_labelTemplate (node : NodePattern) : node.labelTemplate.IsNeutral := by
  have hlabel : ∀ label ∈ node.shownLabels,
      Template.IsNeutral [.text (Identifier.escape label)] := fun label _ =>
    Template.isNeutral_piece fun _ => Scanner.neutral_escape label
  unfold labelTemplate
  split
  · exact Template.isNeutral_nil
  · refine Template.IsNeutral.text_cons ?_ (by decide)
    exact Template.isNeutral_joined Template.isNeutral_labelSign (List.forall_mem_map.2 hlabel)

/-- The template of a node is neutral if those of its properties are. -/
theorem isNeutral_template (node : NodePattern) (annotated : Bool)
    (h : ∀ entry ∈ node.properties, entry.2.template.IsNeutral) :
    (node.template annotated).IsNeutral := by
  have hname := isNeutral_nameTemplate node.identity node.showsVariable
  unfold template
  cases annotated with
  | false => exact (hname.append Template.isNeutral_nil).within (by decide)
  | true =>
      have hannotation := node.isNeutral_labelTemplate.append (isNeutral_propertiesTemplate
        (!node.showsVariable && node.shownLabels.isEmpty) h)
      exact (hname.append hannotation).within (by decide)

end NodePattern

theorem PathLength.all_isIdle_render (length : PathLength) :
    length.render.toList.all isIdle = true := by
  have hbound : ∀ bound, (boundText bound).toList.all isIdle = true := by
    intro bound
    cases bound with
    | none => rfl
    | some n => exact all_isIdle_of_isNumberText (isNumberText_natural n)
  cases length with
  | exactly hops =>
      rw [render, String.toList_append, List.all_append,
        all_isIdle_of_isNumberText (isNumberText_natural _)]
      rfl
  | any => rfl
  | between least greatest =>
      have htext : ("*" ++ boundText least ++ ".." ++ boundText greatest).toList.all isIdle =
          true := by
        simp only [String.toList_append, List.all_append, hbound]
        rfl
      -- without bounds there are no dots
      rcases least with _ | least <;> rcases greatest with _ | greatest
      · rfl
      · exact htext
      · exact htext
      · exact htext

namespace RelationshipPattern

theorem isNeutral_lengthText (rel : RelationshipPattern) :
    Template.IsNeutral [.text rel.lengthText] := by
  unfold lengthText
  split
  next length _ => exact Template.isNeutral_text length.all_isIdle_render
  next => exact Template.isNeutral_text rfl

theorem isNeutral_measureText (rel : RelationshipPattern) :
    Template.IsNeutral [.text rel.measureText] := by
  have htype : Template.IsNeutral [.text rel.typeText] := by
    unfold typeText
    split
    next relationType _ =>
      have hescape := Template.isNeutral_text_escape ":" "" (by decide) (by decide) relationType
      rwa [String.append_empty] at hescape
    next => exact Template.isNeutral_text rfl
  intro ν
  simpa [Piece.write, measureText] using htype.append rel.isNeutral_lengthText ν

/-- The template of a relationship is neutral if those of its properties are. -/
theorem isNeutral_template (rel : RelationshipPattern) (annotated : Bool)
    (h : ∀ entry ∈ rel.properties, entry.2.template.IsNeutral) :
    (rel.template annotated).IsNeutral := by
  have harrow : ∀ t : Template, t.IsNeutral → (rel.direction.arrowTemplate t).IsNeutral := by
    intro t ht
    unfold Direction.arrowTemplate
    cases rel.direction <;> exact ht.within (by decide)
  have hname := isNeutral_nameTemplate rel.identity rel.showsVariable
  unfold template
  cases annotated with
  | false => exact harrow _ (hname.append rel.isNeutral_lengthText)
  | true =>
      have hannotation := rel.isNeutral_measureText.append (isNeutral_propertiesTemplate
        (!rel.showsVariable && rel.measureText.isEmpty) h)
      exact harrow _ (hname.append hannotation)

end RelationshipPattern

theorem Hop.isNeutral_templateAll {hops : List Hop}
    (h : ∀ x ∈ Hop.elements hops, ∀ entry ∈ x.properties, entry.2.template.IsNeutral) :
    ∀ earlier : List Variable, (Hop.templateAll earlier hops).IsNeutral := by
  induction hops with
  | nil => exact fun _ => Template.isNeutral_nil
  | cons hop rest ih =>
      intro earlier
      have hrel := h hop.relationship.element (by simp [elements])
      have hnode := h hop.node.element (by simp [elements])
      have hrest : ∀ x ∈ Hop.elements rest, ∀ entry ∈ x.properties,
          entry.2.template.IsNeutral := by
        intro x hx
        exact h x (List.mem_append_right _ hx)
      exact (hop.relationship.isNeutral_template _ hrel).append
        ((hop.node.isNeutral_template _ hnode).append (ih hrest _))

/-- **The template of a pattern is neutral.** -/
theorem Pattern.isNeutral_template {p : Pattern}
    (h : ∀ e ∈ p.expressions, e.parts.all Expression.isSafe = true) : p.template.IsNeutral := by
  have hproperties : ∀ x ∈ p.elements, ∀ entry ∈ x.properties,
      entry.2.template.IsNeutral := by
    intro x hx entry hentry
    exact Expression.isNeutral_template
      (h entry.2 (List.mem_flatMap.2 ⟨x, hx, List.mem_map_of_mem hentry⟩))
  rw [Pattern.elements, List.forall_mem_cons] at hproperties
  exact (p.start.isNeutral_template _ hproperties.1).append
    (Hop.isNeutral_templateAll hproperties.2 _)

/-! ### Clauses -/

theorem Column.isNeutral_template {c : Column}
    (h : c.expression.parts.all Expression.isSafe = true) : c.template.IsNeutral := by
  cases c with
  | plain e => exact Expression.isNeutral_template h
  | aliased e name =>
      have hname := (Template.isNeutral_variableName name).text_cons (s := " AS ") (by decide)
      exact (Expression.isNeutral_template h).append hname

theorem isNeutral_columnsTemplate {columns : List Column}
    (h : ∀ e ∈ columns.map Column.expression, e.parts.all Expression.isSafe = true) :
    (columnsTemplate columns).IsNeutral := by
  rw [List.forall_mem_map] at h
  unfold columnsTemplate
  split
  · exact Template.isNeutral_text (by decide)
  · exact Template.isNeutral_joined_map (by decide) fun c hc => Column.isNeutral_template (h c hc)

theorem isNeutral_patternsTemplate {keyword : String} (hkeyword : keyword.toList.all isIdle = true)
    {patterns : List Pattern} (h : ∀ e ∈ patterns.flatMap Pattern.expressions,
      e.parts.all Expression.isSafe = true) : (patternsTemplate keyword patterns).IsNeutral := by
  have hpattern : ∀ p ∈ patterns, p.template.IsNeutral := by
    intro p hp
    exact Pattern.isNeutral_template fun e he => h e (List.mem_flatMap.2 ⟨p, hp, he⟩)
  unfold patternsTemplate
  split
  · exact Template.isNeutral_fault _
  · refine (Template.isNeutral_joined_map (by decide) hpattern).text_cons ?_
    rw [String.toList_append, List.all_append, hkeyword]
    rfl

theorem isNeutral_partTemplate {keyword : String} (hkeyword : keyword.toList.all isIdle = true)
    {part : Option Expression} (h : ∀ e ∈ part.toList, e.parts.all Expression.isSafe = true) :
    (partTemplate keyword part).IsNeutral := by
  cases part with
  | none => exact Template.isNeutral_nil
  | some e =>
      have hbefore : ("\n" ++ keyword ++ " ").toList.all isIdle = true := by
        simp only [String.toList_append, List.all_append, hkeyword]
        rfl
      exact (Expression.isNeutral_template (h e (List.mem_singleton.2 rfl))).text_cons hbefore

theorem isNeutral_sortItemsTemplate {items : List SortItem}
    (h : ∀ e ∈ items.map SortItem.expression, e.parts.all Expression.isSafe = true) :
    (sortItemsTemplate items).IsNeutral := by
  have hitem : ∀ item ∈ items, item.template.IsNeutral := by
    intro item hmem
    refine (Expression.isNeutral_template (h _ (List.mem_map_of_mem hmem))).append
      (Template.isNeutral_text ?_)
    cases item.order <;> decide
  unfold sortItemsTemplate
  split
  · exact Template.isNeutral_nil
  · exact (Template.isNeutral_joined_map (by decide) hitem).text_cons (by decide)

theorem isNeutral_assignmentsTemplate {assignments : List Assignment}
    (h : ∀ e ∈ assignments.flatMap fun a => [a.base, a.value],
      e.parts.all Expression.isSafe = true) : (assignmentsTemplate assignments).IsNeutral := by
  have hassignment : ∀ a ∈ assignments, a.template.IsNeutral := by
    intro a hmem
    have hbase := h a.base (List.mem_flatMap.2 ⟨a, hmem, by simp⟩)
    have hvalue := h a.value (List.mem_flatMap.2 ⟨a, hmem, by simp⟩)
    -- the target is a key of the base, which adds nothing that is written as it stands
    have htarget : a.target.parts.all Expression.isSafe = true := by
      rw [Assignment.target, Expression.parts, List.all_cons, hbase]
      rfl
    exact (Expression.isNeutral_template htarget).append
      ((Expression.isNeutral_template hvalue).text_cons (by decide))
  unfold assignmentsTemplate
  split
  · exact Template.isNeutral_fault _
  · exact (Template.isNeutral_joined_map (by decide) hassignment).text_cons (by decide)

theorem isNeutral_deletionsTemplate (detached : Bool) {items : List Expression}
    (h : ∀ e ∈ items, e.parts.all Expression.isSafe = true) :
    (deletionsTemplate detached items).IsNeutral := by
  have hitem : ∀ e ∈ items, e.template.IsNeutral := fun e he =>
    Expression.isNeutral_template (h e he)
  unfold deletionsTemplate
  split
  · exact Template.isNeutral_fault _
  · refine (Template.isNeutral_joined_map (by decide) hitem).text_cons ?_
    cases detached <;> decide

/-- **The template of a clause is neutral.** -/
theorem Clause.isNeutral_template {c : Clause}
    (h : ∀ e ∈ c.expressions, e.parts.all Expression.isSafe = true) : c.template.IsNeutral := by
  have hdistinct : ∀ distinct, (distinctText distinct).toList.all isIdle = true := by decide
  cases c with
  | matching c =>
      rw [expressions, List.forall_mem_append] at h
      refine (isNeutral_patternsTemplate ?_ h.1).append (isNeutral_partTemplate (by decide) h.2)
      unfold MatchClause.keyword
      split <;> decide
  | creating patterns => exact isNeutral_patternsTemplate (by decide) h
  | merging pattern => exact (Pattern.isNeutral_template h).text_cons (by decide)
  | handingOn c =>
      rw [expressions, List.forall_mem_append] at h
      refine ((isNeutral_columnsTemplate h.1).append
        (isNeutral_partTemplate (by decide) h.2)).text_cons ?_
      rw [String.toList_append, List.all_append, hdistinct]
      rfl
  | unwinding items name =>
      have hitems := Expression.isNeutral_template (h items (List.mem_singleton.2 rfl))
      have hname := (Template.isNeutral_variableName name).text_cons (s := " AS ") (by decide)
      exact (hitems.append hname).text_cons (by decide)
  | setting assignments => exact isNeutral_assignmentsTemplate h
  | deleting detached items => exact isNeutral_deletionsTemplate detached h
  | returning c =>
      simp only [expressions, List.forall_mem_append] at h
      obtain ⟨⟨⟨hcolumns, hsort⟩, hskipped⟩, hlimit⟩ := h
      refine ((isNeutral_columnsTemplate hcolumns).append
        ((isNeutral_sortItemsTemplate hsort).append
          ((isNeutral_partTemplate (by decide) hskipped).append
            (isNeutral_partTemplate (by decide) hlimit)))).text_cons ?_
      rw [String.toList_append, List.all_append, hdistinct]
      rfl

/-! ### Builds -/

/-- **The template of a construct is neutral.** -/
theorem Construct.isNeutral_template {c : Construct} (h : c.isSafe = true) :
    c.template.IsNeutral := by
  rw [isSafe, List.all_eq_true] at h
  cases c with
  | ofExpression e => exact Expression.isNeutral_template (h e (List.mem_singleton.2 rfl))
  | ofVariable v => exact Template.isNeutral_variableName v
  | ofParameter p => exact Template.isNeutral_parameterName p
  | ofPattern p => exact Pattern.isNeutral_template h
  | ofOpenPattern p => exact Template.isNeutral_fault _
  | ofColumn c => exact Column.isNeutral_template (h c.expression (List.mem_singleton.2 rfl))
  | ofClause c => exact Clause.isNeutral_template h
  | ofQuery q =>
      have hclause : ∀ c ∈ q.clauses, c.template.IsNeutral := by
        intro c hc
        exact Clause.isNeutral_template fun e he => h e (List.mem_flatMap.2 ⟨c, hc, he⟩)
      rw [template, Query.template]
      split
      · exact Template.isNeutral_fault _
      · exact Template.isNeutral_joined_map (by decide) hclause

/-- The text of a build is the one that the construct has in a fresh environment. -/
theorem Construct.result_render_of_build {c : Construct} {config : BuildConfig}
    {result : BuildResult} (h : (c.build config).result = .ok result) :
    (c.render (.start config.namePrefix config.labelOperator)).result = .ok result.cypher :=
  (parts_of_build h).1

/-- **The text of a build is balanced**, whatever the names and the literals hold: a scanner ends
outside of all quotes, with every bracket closed by one of its own kind. -/
theorem isBalanced_of_build {c : Construct} {config : BuildConfig} {result : BuildResult}
    (hsafe : c.isSafe = true) (h : (c.build config).result = .ok result) :
    Scanner.isBalanced result.cypher = true := by
  have hrun := Construct.result_render_of_build h
  rw [Construct.result_render] at hrun
  obtain ⟨-, htext⟩ := Template.run_of_ok hrun
  rw [htext]
  exact Scanner.isBalanced_of_neutral (Construct.isNeutral_template hsafe _)

/-- A query with quotes, brackets and line breaks in its names, keys and literals. -/
def hostileQuery : Construct :=
  let node : Variable := ⟨0, .node, some "a\x60b"⟩
  let given : Parameter := ⟨1, some "p'", .text "1"⟩
  .ofQuery ⟨[
    .matching ⟨false,
      [⟨⟨node, ["La'bel", "x)"], [("k\x7b", .literal (.text "it's \\ here\n"))], true, true⟩, []⟩],
      some (.application .equal [.property (.reference node) "]\x60", .placeholder given])⟩,
    .returning ⟨false, [.plain (.call "apoc.text.join" [.reference node])], [], none, none⟩]⟩

/-- Its text. -/
def hostileText : String :=
  "MATCH (\x60a\x60\x60b\x60:\x60La'bel\x60:\x60x)\x60 " ++
    "\x7b\x60k\x7b\x60: 'it\\'s \\\\ here\\n'\x7d)\n" ++
    "WHERE \x60a\x60\x60b\x60.\x60]\x60\x60\x60 = $\x60p'\x60\n" ++
    "RETURN apoc.text.join(\x60a\x60\x60b\x60)"

/-- The text of such a query is balanced. -/
theorem isBalanced_hostileText :
    hostileQuery.isSafe = true ∧
      (hostileQuery.build .standard).result = .ok ⟨hostileText, [("p'", .text "1")]⟩ ∧
      Scanner.isBalanced hostileText = true :=
  ⟨rfl, rfl, @isBalanced_of_build hostileQuery .standard
    ⟨hostileText, [("p'", .text "1")]⟩ rfl rfl⟩

end CypherQuery
