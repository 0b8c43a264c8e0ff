/-
**Other identities in the place of those of a construct.**

A renaming turns a construct into one of the same shape, with other variables and parameters at the
same places.  Little of what a renderer asks about a tree depends on which identities stand in it:
the numbers of operands and the parentheses stay the same.  But an element of a pattern is written
bare if its variable was shown before.  As long as different variables stay different, the template
of the new construct is that of the old one with the other identities.

Main definitions:

* `CypherQuery.Renaming` — other variables and parameters;
* `CypherQuery.Construct.rename`, `CypherQuery.Template.rename` — **constructs and templates with
  other identities**;
* `CypherQuery.Renaming.KeepsApart` — different variables stay different.

Main results:

* `CypherQuery.Expression.template_rename`, `CypherQuery.Construct.template_rename` —
  **the template of a construct with other identities**;
* `CypherQuery.Construct.occurrences_rename` — they stand at the same places.
-/

import CypherQuery.Proofs.Template.Construct

set_option autoImplicit false

namespace CypherQuery

/-! ### Constructs with other identities -/

/-- Other variables and parameters in the place of those there are. -/
structure Renaming where
  /-- The other variables. -/
  ofVariable : Variable → Variable
  /-- The other parameters. -/
  ofParameter : Parameter → Parameter

section

variable (σ : Renaming)

namespace Expression

mutual

/-- **An expression with other identities.** -/
def rename : Expression → Expression
  | .placeholder p => .placeholder (σ.ofParameter p)
  | .property base key => .property (rename base) key
  | .application op operands => .application op (renameAll operands)
  | .call function arguments => .call function (renameAll arguments)
  | .list items => .list (renameAll items)
  | .map entries => .map (renameEntries entries)
  | .literal l => .literal l
  | .reference v => .reference (σ.ofVariable v)
  | .identityOf v => .identityOf (σ.ofVariable v)
  | .labelsOf v => .labelsOf (σ.ofVariable v)
  | .raw text => .raw text

/-- Expressions with other identities. -/
def renameAll : List Expression → List Expression
  | [] => []
  | e :: rest => rename e :: renameAll rest

/-- Entries with other identities. -/
def renameEntries : List (String × Expression) → List (String × Expression)
  | [] => []
  | (key, e) :: rest => (key, rename e) :: renameEntries rest

end

end Expression

def NodePattern.rename (node : NodePattern) : NodePattern :=
  { node with
    identity := σ.ofVariable node.identity
    properties := Expression.renameEntries σ node.properties }

def RelationshipPattern.rename (rel : RelationshipPattern) : RelationshipPattern :=
  { rel with
    identity := σ.ofVariable rel.identity
    properties := Expression.renameEntries σ rel.properties }

def Hop.rename (hop : Hop) : Hop :=
  ⟨hop.relationship.rename σ, hop.node.rename σ⟩

def Pattern.rename (p : Pattern) : Pattern :=
  ⟨p.start.rename σ, p.hops.map (Hop.rename σ)⟩

def OpenPattern.rename (p : OpenPattern) : OpenPattern :=
  ⟨p.pattern.rename σ, p.relationship.rename σ⟩

def Column.rename : Column → Column
  | .plain e => .plain (e.rename σ)
  | .aliased e name => .aliased (e.rename σ) (σ.ofVariable name)

def SortItem.rename (item : SortItem) : SortItem :=
  { item with expression := item.expression.rename σ }

def Assignment.rename (a : Assignment) : Assignment :=
  ⟨a.base.rename σ, a.key, a.value.rename σ⟩

def Clause.rename : Clause → Clause
  | .matching c =>
      .matching ⟨c.optional, c.patterns.map (Pattern.rename σ),
        c.condition.map (Expression.rename σ)⟩
  | .creating patterns => .creating (patterns.map (Pattern.rename σ))
  | .merging pattern => .merging (pattern.rename σ)
  | .handingOn c =>
      .handingOn ⟨c.distinct, c.columns.map (Column.rename σ),
        c.condition.map (Expression.rename σ)⟩
  | .unwinding items name => .unwinding (items.rename σ) (σ.ofVariable name)
  | .setting assignments => .setting (assignments.map (Assignment.rename σ))
  | .deleting detached items => .deleting detached (items.map (Expression.rename σ))
  | .returning c =>
      .returning ⟨c.distinct, c.columns.map (Column.rename σ),
        c.sortItems.map (SortItem.rename σ), c.skipped.map (Expression.rename σ),
        c.limit.map (Expression.rename σ)⟩

def Query.rename (q : Query) : Query := ⟨q.clauses.map (Clause.rename σ)⟩

/-- **A construct with other identities**: the shape and all texts are kept. -/
def Construct.rename : Construct → Construct
  | .ofExpression e => .ofExpression (e.rename σ)
  | .ofVariable v => .ofVariable (σ.ofVariable v)
  | .ofParameter p => .ofParameter (σ.ofParameter p)
  | .ofPattern p => .ofPattern (p.rename σ)
  | .ofOpenPattern p => .ofOpenPattern (p.rename σ)
  | .ofColumn c => .ofColumn (c.rename σ)
  | .ofClause c => .ofClause (c.rename σ)
  | .ofQuery q => .ofQuery (q.rename σ)

def Piece.rename : Piece → Piece
  | .variableName v => .variableName (σ.ofVariable v)
  | .parameterName p => .parameterName (σ.ofParameter p)
  | piece => piece

/-- **A template with other identities.** -/
def Template.rename (t : Template) : Template := t.map (Piece.rename σ)

def Occurrence.rename : Occurrence → Occurrence
  | .variableAt v => .variableAt (σ.ofVariable v)
  | .parameterAt p => .parameterAt (σ.ofParameter p)

/-- **Different variables at several places stay different.** -/
def Renaming.KeepsApart (os : List Occurrence) : Prop :=
  ∀ v w, .variableAt v ∈ os → .variableAt w ∈ os → σ.ofVariable v = σ.ofVariable w → v = w

end

theorem Renaming.KeepsApart.mono {σ : Renaming} {os os' : List Occurrence} (h : σ.KeepsApart os)
    (hsub : os' ⊆ os) : σ.KeepsApart os' :=
  fun v w hv hw => h v w (hsub hv) (hsub hw)

variable (σ : Renaming)

/-! ### Templates put together -/

@[simp] theorem Piece.rename_text (s : String) : (text s).rename σ = text s := rfl

@[simp] theorem Piece.rename_variableName (v : Variable) :
    (variableName v).rename σ = variableName (σ.ofVariable v) := rfl

@[simp] theorem Piece.rename_parameterName (p : Parameter) :
    (parameterName p).rename σ = parameterName (σ.ofParameter p) := rfl

@[simp] theorem Piece.rename_labelSign : labelSign.rename σ = labelSign := rfl

@[simp] theorem Piece.rename_fault (e : BuildError) : (fault e).rename σ = fault e :=
  rfl

namespace Template

@[simp] theorem rename_nil : rename σ [] = [] := rfl

@[simp] theorem rename_cons (piece : Piece) (t : Template) :
    rename σ (piece :: t) = piece.rename σ :: rename σ t := rfl

@[simp] theorem rename_append (t u : Template) :
    rename σ (t ++ u) = rename σ t ++ rename σ u := List.map_append

theorem rename_flatten (ts : List Template) :
    rename σ ts.flatten = (ts.map (rename σ)).flatten := List.map_flatten

theorem rename_joined {sign : Piece} (hsign : sign.rename σ = sign)
    (ts : List Template) :
    rename σ (joined sign ts) = joined sign (ts.map (rename σ)) := by
  induction ts with
  | nil => rfl
  | cons t rest ih =>
      cases rest with
      | nil => simp
      | cons u rest =>
          rw [joined_cons_cons, rename_append, rename_cons, hsign, ih]
          exact (joined_cons_cons sign _ _ _).symm

/-- Templates of things with a text between them, where other identities in a thing are other
identities in its template. -/
theorem rename_joined_map {α : Type} {template : α → Template} {g : α → α} {as : List α}
    (h : ∀ a ∈ as, template (g a) = rename σ (template a)) (sep : String) :
    rename σ (joined (.text sep) (as.map template)) =
      joined (.text sep) (as.map (template ∘ g)) := by
  rw [rename_joined σ (Piece.rename_text σ sep), List.map_map]
  exact congrArg _ (List.map_congr_left fun a ha => (h a ha).symm)

end Template

/-! ### Expressions -/

namespace Expression

theorem renameAll_eq_map (es : List Expression) :
    renameAll σ es = es.map (rename σ) := by
  induction es with
  | nil => rfl
  | cons e rest ih => simp [renameAll, ih]

def renameEntry (entry : String × Expression) : String × Expression :=
  (entry.1, entry.2.rename σ)

theorem renameEntries_eq_map (entries : List (String × Expression)) :
    renameEntries σ entries = entries.map (renameEntry σ) := by
  induction entries with
  | nil => rfl
  | cons entry rest ih => simp [renameEntries, renameEntry, ih]

@[simp] theorem isEmpty_renameEntries (entries : List (String × Expression)) :
    (renameEntries σ entries).isEmpty = entries.isEmpty := by
  cases entries <;> rfl

/-- The same applications are put in parentheses. -/
theorem isUndelimited_rename (e : Expression) :
    (e.rename σ).isUndelimited = e.isUndelimited := by
  cases e with
  | application op operands =>
      simp [rename, renameAll_eq_map, isUndelimited]
  | _ => rfl

theorem rename_besideTemplate (e : Expression) (t : Template) :
    (besideTemplate e t).rename σ =
      besideTemplate (e.rename σ) (t.rename σ) := by
  unfold besideTemplate
  rw [isUndelimited_rename]
  split <;> simp

theorem rename_zipWith_beside {operands : List Expression}
    (h : ∀ e ∈ operands, (e.rename σ).template = e.template.rename σ) :
    (List.zipWith besideTemplate operands (operands.map template)).map (Template.rename σ) =
      List.zipWith besideTemplate (operands.map (rename σ))
        ((operands.map (rename σ)).map template) := by
  rw [zipWith_beside, zipWith_beside, List.map_map, List.map_map]
  refine List.map_congr_left fun e he => ?_
  simp only [Function.comp_apply, rename_besideTemplate, h e he]

theorem rename_composeTemplate (op : Operator) (alone beside : List Template) :
    (op.composeTemplate alone beside).rename σ =
      op.composeTemplate (alone.map (Template.rename σ))
        (beside.map (Template.rename σ)) := by
  have hjoined := Template.rename_joined σ
    (Piece.rename_text σ (" " ++ op.keyword ++ " "))
  simp only [Operator.composeTemplate]
  cases op.family with
  | arithmetic => simp [hjoined]
  | comparison => exact hjoined beside
  | connective =>
      simp only [List.length_map]
      split
      · exact hjoined alone
      · simp [hjoined]
  | before => simp [hjoined]
  | after => simp [hjoined]

/-- **The template of an expression with other identities.** -/
theorem template_rename (e : Expression) :
    (e.rename σ).template = e.template.rename σ := by
  induction e using Expression.induction with
  | literal l =>
      cases h : l.write <;> simp [rename, template, Literal.template, h]
  | reference v => rfl
  | placeholder p => rfl
  | property base key ih => simp [rename, template, ih]
  | application op operands ih =>
      have halone : (operands.map (rename σ)).map template =
          (operands.map template).map (Template.rename σ) := by
        rw [List.map_map, List.map_map]
        exact List.map_congr_left ih
      simp only [rename, renameAll_eq_map, template, templates_eq_map,
        applicationTemplate, List.length_map]
      cases op.fault? operands.length with
      | some cause => simp [halone, Template.rename_flatten]
      | none => rw [rename_composeTemplate, rename_zipWith_beside σ ih, halone]
  | call function arguments ih =>
      have hjoined := Template.rename_joined_map σ ih ", "
      simp [rename, renameAll_eq_map, template, templates_eq_map, hjoined]
  | list items ih =>
      have hjoined := Template.rename_joined_map σ ih ", "
      simp [rename, renameAll_eq_map, template, templates_eq_map, hjoined]
  | map entries ih =>
      have hentry : ∀ entry ∈ entries,
          entryTemplate (renameEntry σ entry) = (entryTemplate entry).rename σ := by
        intro entry hmem
        simp [entryTemplate, renameEntry, ih entry hmem]
      have hjoined := Template.rename_joined_map σ hentry ", "
      simp [rename, renameEntries_eq_map, template, mapTemplate,
        entryTemplates_eq_map, hjoined]
  | identityOf v => rfl
  | labelsOf v => rfl
  | raw text => rfl

end Expression

/-! ### Patterns -/

theorem propertiesTemplate_rename (first : Bool) (properties : List (String × Expression)) :
    propertiesTemplate first (Expression.renameEntries σ properties) =
      (propertiesTemplate first properties).rename σ := by
  have hmap : Expression.mapTemplate
        (Expression.entryTemplates (Expression.renameEntries σ properties)) =
      (Expression.mapTemplate (Expression.entryTemplates properties)).rename σ :=
    Expression.template_rename σ (.map properties)
  unfold propertiesTemplate
  rw [Expression.isEmpty_renameEntries]
  split
  · rfl
  · cases first <;> simp [hmap]

theorem nameTemplate_rename (v : Variable) (shown : Bool) :
    nameTemplate (σ.ofVariable v) shown = (nameTemplate v shown).rename σ := by
  cases shown <;> rfl

theorem NodePattern.rename_labelTemplate (node : NodePattern) :
    node.labelTemplate.rename σ = node.labelTemplate := by
  have hjoined := Template.rename_joined σ (Piece.rename_labelSign σ)
    (node.shownLabels.map fun label => [.text (Identifier.escape label)])
  unfold labelTemplate
  split
  · rfl
  · rw [Template.rename_cons, hjoined, List.map_map]
    rfl

theorem NodePattern.template_rename (node : NodePattern) (annotated : Bool) :
    (node.rename σ).template annotated = (node.template annotated).rename σ := by
  have hname := nameTemplate_rename σ node.identity node.showsVariable
  have hlabels := node.rename_labelTemplate σ
  have hproperties := propertiesTemplate_rename σ
    (!node.showsVariable && node.shownLabels.isEmpty) node.properties
  have hannotation : (node.rename σ).annotationTemplate = node.annotationTemplate.rename σ := by
    rw [annotationTemplate, annotationTemplate, Template.rename_append, hlabels, ← hproperties]
    rfl
  cases annotated
  · simp only [template, Bool.false_eq_true, if_false, Template.rename_cons,
      Template.rename_append, ← hname]
    rfl
  · simp only [template, if_true, hannotation, Template.rename_cons, Template.rename_append,
      ← hname]
    rfl

theorem RelationshipPattern.template_rename (rel : RelationshipPattern) (annotated : Bool) :
    (rel.rename σ).template annotated = (rel.template annotated).rename σ := by
  have hname := nameTemplate_rename σ rel.identity rel.showsVariable
  have hproperties := propertiesTemplate_rename σ
    (!rel.showsVariable && rel.measureText.isEmpty) rel.properties
  have harrow : ∀ t : Template,
      (rel.direction.arrowTemplate t).rename σ = rel.direction.arrowTemplate (t.rename σ) := by
    intro t
    cases rel.direction <;> simp [Direction.arrowTemplate]
  have hannotation : (rel.rename σ).annotationTemplate = rel.annotationTemplate.rename σ := by
    rw [annotationTemplate, annotationTemplate, Template.rename_cons, ← hproperties]
    rfl
  rw [template, template, harrow]
  cases annotated
  · simp only [Bool.false_eq_true, if_false, Template.rename_append, ← hname]
    rfl
  · simp only [if_true, hannotation, Template.rename_append, ← hname]
    rfl

section

variable {σ} {os : List Occurrence} (h : σ.KeepsApart os)

include h in
/-- The same elements are written bare. -/
theorem isAnnotated_rename {earlier : List Variable} (hearlier : ∀ v ∈ earlier, .variableAt v ∈ os)
    {x : PatternElement} (hx : x.shown = true → .variableAt x.identity ∈ os) :
    isAnnotated (earlier.map σ.ofVariable) (σ.ofVariable x.identity) x.shown =
      isAnnotated earlier x.identity x.shown := by
  cases hshown : x.shown with
  | false => rfl
  | true =>
      have hcontains : (earlier.map σ.ofVariable).contains (σ.ofVariable x.identity) =
          earlier.contains x.identity := by
        rw [Bool.eq_iff_iff, List.contains_iff_mem, List.contains_iff_mem, List.mem_map]
        constructor
        · rintro ⟨v, hv, heq⟩
          rwa [← h v x.identity (hearlier v hv) (hx hshown) heq]
        · intro hmem
          exact ⟨x.identity, hmem, rfl⟩
      rw [isAnnotated, isAnnotated, hcontains]

theorem shownBefore_rename (σ : Renaming) (earlier : List Variable) (v : Variable) (shown : Bool) :
    shownBefore (earlier.map σ.ofVariable) (σ.ofVariable v) shown =
      (shownBefore earlier v shown).map σ.ofVariable := by
  cases shown <;> rfl

theorem mem_shownBefore {earlier : List Variable} (hearlier : ∀ v ∈ earlier, .variableAt v ∈ os)
    {x : PatternElement} (hx : x.shown = true → .variableAt x.identity ∈ os) :
    ∀ v ∈ shownBefore earlier x.identity x.shown, .variableAt v ∈ os := by
  intro v hv
  cases hshown : x.shown with
  | false =>
      rw [hshown] at hv
      exact hearlier v hv
  | true =>
      rw [hshown] at hv
      rcases List.mem_cons.1 hv with rfl | hold
      · exact hx hshown
      · exact hearlier v hold

include h in
theorem Hop.templateAll_rename (hops : List Hop) : ∀ earlier : List Variable,
    (∀ v ∈ earlier, .variableAt v ∈ os) →
    (∀ x ∈ Hop.elements hops, x.shown = true → .variableAt x.identity ∈ os) →
    Hop.templateAll (earlier.map σ.ofVariable) (hops.map (Hop.rename σ)) =
      (Hop.templateAll earlier hops).rename σ := by
  induction hops with
  | nil => intro earlier _ _; rfl
  | cons hop rest ih =>
      intro earlier hearlier helements
      have hlist : Hop.elements (hop :: rest) =
          hop.relationship.element :: hop.node.element :: Hop.elements rest := rfl
      rw [hlist, List.forall_mem_cons, List.forall_mem_cons] at helements
      obtain ⟨hrel, hnode, hrest⟩ := helements
      have hbetween := mem_shownBefore hearlier hrel
      have hbehind := mem_shownBefore hbetween hnode
      have hrelAnnotated : (hop.relationship.rename σ).annotatedAfter (earlier.map σ.ofVariable) =
          hop.relationship.annotatedAfter earlier := isAnnotated_rename h hearlier hrel
      have hrelExtend : (hop.relationship.rename σ).extend (earlier.map σ.ofVariable) =
          (hop.relationship.extend earlier).map σ.ofVariable := shownBefore_rename σ _ _ _
      have hnodeAnnotated : (hop.node.rename σ).annotatedAfter
            ((hop.relationship.extend earlier).map σ.ofVariable) =
          hop.node.annotatedAfter (hop.relationship.extend earlier) :=
        isAnnotated_rename h hbetween hnode
      have hnodeExtend : (hop.node.rename σ).extend
            ((hop.relationship.extend earlier).map σ.ofVariable) =
          (hop.node.extend (hop.relationship.extend earlier)).map σ.ofVariable :=
        shownBefore_rename σ _ _ _
      have htail := ih (hop.node.extend (hop.relationship.extend earlier)) hbehind hrest
      simp only [List.map_cons, templateAll, Hop.rename, Template.rename_append, hrelAnnotated,
        hrelExtend, hnodeAnnotated, hnodeExtend, htail, RelationshipPattern.template_rename,
        NodePattern.template_rename]

include h in
theorem Pattern.template_rename {p : Pattern} (hp : p.occurrences ⊆ os) :
    (p.rename σ).template = p.template.rename σ := by
  have helements : ∀ x ∈ p.elements, x.shown = true → .variableAt x.identity ∈ os :=
    fun x hx hshown => hp (PatternElement.variableAt_mem hshown [] hx)
  rw [elements, List.forall_mem_cons] at helements
  obtain ⟨hstart, hrest⟩ := helements
  have hnone : ∀ v ∈ ([] : List Variable), Occurrence.variableAt v ∈ os :=
    fun v hv => absurd hv List.not_mem_nil
  have hannotated : (p.start.rename σ).annotatedAfter [] = p.start.annotatedAfter [] :=
    isAnnotated_rename h hnone hstart
  have hextend : (p.start.rename σ).extend [] = (p.start.extend []).map σ.ofVariable :=
    shownBefore_rename σ [] _ _
  have hhops := Hop.templateAll_rename h p.hops (p.start.extend [])
    (mem_shownBefore hnone hstart) hrest
  simp only [rename, template, Template.rename_append, hannotated, hextend, hhops,
    NodePattern.template_rename]

end

/-! ### Clauses, queries and all other constructs -/

theorem Column.template_rename (c : Column) : (c.rename σ).template = c.template.rename σ := by
  cases c with
  | plain e => exact e.template_rename σ
  | aliased e name => simp [rename, template, Expression.template_rename]

theorem columnsTemplate_rename (columns : List Column) :
    columnsTemplate (columns.map (Column.rename σ)) =
      (columnsTemplate columns).rename σ := by
  have hjoined := Template.rename_joined_map σ
    (fun c (_ : c ∈ columns) => c.template_rename σ) ", "
  unfold columnsTemplate
  rw [List.isEmpty_map]
  split
  · rfl
  · rw [hjoined, List.map_map]

theorem patternsTemplate_rename (keyword : String) {patterns : List Pattern}
    (h : σ.KeepsApart (patterns.flatMap Pattern.occurrences)) :
    patternsTemplate keyword (patterns.map (Pattern.rename σ)) =
      (patternsTemplate keyword patterns).rename σ := by
  have hpattern : ∀ p ∈ patterns, (p.rename σ).template = p.template.rename σ := by
    intro p hp
    exact Pattern.template_rename h fun o ho => List.mem_flatMap.2 ⟨p, hp, ho⟩
  have hjoined := Template.rename_joined_map σ hpattern ", "
  unfold patternsTemplate
  rw [List.isEmpty_map]
  split
  · rfl
  · simp [hjoined]

theorem partTemplate_rename (keyword : String) (part : Option Expression) :
    partTemplate keyword (part.map (Expression.rename σ)) =
      (partTemplate keyword part).rename σ := by
  cases part with
  | none => rfl
  | some e => simp [partTemplate, Expression.template_rename]

theorem sortItemsTemplate_rename (items : List SortItem) :
    sortItemsTemplate (items.map (SortItem.rename σ)) =
      (sortItemsTemplate items).rename σ := by
  have hitem : ∀ item ∈ items,
      (item.rename σ).template = item.template.rename σ := by
    intro item _
    simp [SortItem.rename, SortItem.template, Expression.template_rename]
  have hjoined := Template.rename_joined_map σ hitem ", "
  unfold sortItemsTemplate
  rw [List.isEmpty_map]
  split
  · rfl
  · simp [hjoined]

theorem assignmentsTemplate_rename (assignments : List Assignment) :
    assignmentsTemplate (assignments.map (Assignment.rename σ)) =
      (assignmentsTemplate assignments).rename σ := by
  have hassignment : ∀ a ∈ assignments,
      (a.rename σ).template = a.template.rename σ := by
    intro a _
    have htarget : (a.rename σ).target = a.target.rename σ := rfl
    have hvalue : (a.rename σ).value = a.value.rename σ := rfl
    simp [Assignment.template, htarget, hvalue, Expression.template_rename]
  have hjoined := Template.rename_joined_map σ hassignment ", "
  unfold assignmentsTemplate
  rw [List.isEmpty_map]
  split
  · rfl
  · simp [hjoined]

theorem deletionsTemplate_rename (detached : Bool) (items : List Expression) :
    deletionsTemplate detached (items.map (Expression.rename σ)) =
      (deletionsTemplate detached items).rename σ := by
  have hjoined := Template.rename_joined_map σ
    (fun e (_ : e ∈ items) => e.template_rename σ) ", "
  unfold deletionsTemplate
  rw [List.isEmpty_map]
  split
  · rfl
  · simp [hjoined]

theorem Clause.template_rename {c : Clause} (h : σ.KeepsApart c.occurrences) :
    (c.rename σ).template = c.template.rename σ := by
  cases c with
  | matching c =>
      have hpatterns := patternsTemplate_rename σ c.keyword
        (h.mono (List.subset_append_left _ _))
      simp only [rename, template, Template.rename_append, ← hpatterns, ← partTemplate_rename]
      rfl
  | creating patterns => exact patternsTemplate_rename σ "CREATE" h
  | merging pattern =>
      have hpattern := Pattern.template_rename h (List.Subset.refl _)
      simp [rename, template, hpattern]
  | handingOn c => simp [rename, template, columnsTemplate_rename, partTemplate_rename]
  | unwinding items name => simp [rename, template, Expression.template_rename]
  | setting assignments => exact assignmentsTemplate_rename σ assignments
  | deleting detached items => exact deletionsTemplate_rename σ detached items
  | returning c =>
      simp [rename, template, columnsTemplate_rename, sortItemsTemplate_rename,
        partTemplate_rename]

theorem Query.template_rename {q : Query}
    (h : σ.KeepsApart (q.clauses.flatMap Clause.occurrences)) :
    (q.rename σ).template = q.template.rename σ := by
  have hclause : ∀ c ∈ q.clauses, (c.rename σ).template = c.template.rename σ := by
    intro c hc
    exact Clause.template_rename σ (h.mono fun o ho => List.mem_flatMap.2 ⟨c, hc, ho⟩)
  have hjoined := Template.rename_joined_map σ hclause "\n"
  unfold rename template
  rw [List.isEmpty_map]
  split
  · rfl
  · rw [hjoined, List.map_map]

namespace Construct

/-- **The template of a construct with other identities**, if different variables stay
different. -/
theorem template_rename {c : Construct} (h : σ.KeepsApart c.occurrences) :
    (c.rename σ).template = c.template.rename σ := by
  cases c with
  | ofExpression e => exact e.template_rename σ
  | ofVariable v => rfl
  | ofParameter p => rfl
  | ofPattern p => exact Pattern.template_rename h (List.Subset.refl _)
  | ofOpenPattern p => rfl
  | ofColumn c => exact c.template_rename σ
  | ofClause c => exact Clause.template_rename σ h
  | ofQuery q => exact Query.template_rename σ h

end Construct

/-! ### Identities -/

theorem Template.occurrences_rename (t : Template) :
    (t.rename σ).occurrences = t.occurrences.map (Occurrence.rename σ) := by
  induction t with
  | nil => rfl
  | cons piece rest ih => cases piece <;> simp [ih, Occurrence.rename]

/-- The other identities stand at the same places. -/
theorem Construct.occurrences_rename {c : Construct} (h : σ.KeepsApart c.occurrences) :
    (c.rename σ).occurrences = c.occurrences.map (Occurrence.rename σ) := by
  rw [← occurrences_template, template_rename σ h, Template.occurrences_rename,
    occurrences_template]

end CypherQuery
