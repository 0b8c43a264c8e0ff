/-
**Constructs that can be written.**

Some constructs cannot be written, whatever the names are: an operator has the wrong number of
operands, a literal is no finite number, a clause or a query has nothing in it, a pattern ends on a
relationship.  Whether a construct is one of them is seen from its tree, at the places that are
written; what stands in the properties of an element that shows its variable again does not count.

Each of these defects leaves a fault in the template, and there are no other faults.

Main definitions:

* `CypherQuery.Construct.writtenExpressions` — the expressions of a construct that are written;
* `CypherQuery.Construct.isWellFormed` — **the constructs that can be written**;
* `CypherQuery.Piece.IsSpecial` — pieces of templates that are neither text nor variables.

Main results:

* `CypherQuery.Expression.fault_mem_template_iff`, `CypherQuery.Construct.fault_mem_template_iff` —
  **the faults of a template**;
* `CypherQuery.Construct.isWellFormed_iff` — the templates of well-formed constructs have none.
-/

import CypherQuery.Proofs.Template.Construct

set_option autoImplicit false

namespace CypherQuery

/-! ### Well-formed constructs -/

/-- Whether an operator may be applied to so many operands. -/
def Operator.admits : Operator → Nat → Bool
  | .conjunction, operands | .disjunction, operands | .exclusiveDisjunction, operands =>
      0 < operands
  | .negation, operands | .isNull, operands | .isNotNull, operands => operands = 1
  | _, operands => operands = 2

/-- Whether an expression can be written, leaving aside those that stand in it. -/
def Expression.isAdmissible : Expression → Bool
  | .literal (.double x) => x.isFinite
  | .application op operands => op.admits operands.length
  | _ => true

/-- The expressions that an element writes, given the elements before it. -/
def PatternElement.writtenAfter (earlier : List PatternElement) (x : PatternElement) :
    List Expression :=
  if x.repeats earlier then [] else x.properties.map Prod.snd

/-- The expressions that elements write, given the elements before them. -/
def PatternElement.writtenExpressions (earlier : List PatternElement) :
    List PatternElement → List Expression
  | [] => []
  | x :: rest => x.writtenAfter earlier ++ writtenExpressions (earlier ++ [x]) rest

theorem PatternElement.mem_of_mem_writtenExpressions {e : Expression}
    {elements : List PatternElement} : ∀ {earlier : List PatternElement},
    e ∈ writtenExpressions earlier elements → ∃ x ∈ elements, e ∈ x.properties.map Prod.snd := by
  induction elements with
  | nil => exact fun h => absurd h List.not_mem_nil
  | cons x rest ih =>
      intro earlier h
      rw [writtenExpressions, List.mem_append] at h
      rcases h with hfirst | hrest
      · rw [writtenAfter] at hfirst
        split at hfirst
        · cases hfirst
        · exact ⟨x, List.mem_cons_self, hfirst⟩
      · obtain ⟨y, hy, he⟩ := ih hrest
        exact ⟨y, List.mem_cons_of_mem x hy, he⟩

/-- The expressions of a pattern that are written: those of the properties of its elements, without
the elements that show their variable again. -/
def Pattern.writtenExpressions (p : Pattern) : List Expression :=
  PatternElement.writtenExpressions [] p.elements

def Clause.writtenExpressions : Clause → List Expression
  | .matching c => c.patterns.flatMap Pattern.writtenExpressions ++ c.condition.toList
  | .creating patterns => patterns.flatMap Pattern.writtenExpressions
  | .merging pattern => pattern.writtenExpressions
  | c => c.expressions

/-- **The expressions of a construct that are written.** -/
def Construct.writtenExpressions : Construct → List Expression
  | .ofPattern p => p.writtenExpressions
  | .ofClause c => c.writtenExpressions
  | .ofQuery q => q.clauses.flatMap Clause.writtenExpressions
  | c => c.expressions

/-- Whether a clause has what it cannot do without. -/
def Clause.isFilled : Clause → Bool
  | .matching c => !c.patterns.isEmpty
  | .creating patterns => !patterns.isEmpty
  | .setting assignments => !assignments.isEmpty
  | .deleting _ items => !items.isEmpty
  | _ => true

/-- Whether a construct has what it cannot do without; a pattern that ends on a relationship lacks
a node. -/
def Construct.isFilled : Construct → Bool
  | .ofOpenPattern _ => false
  | .ofClause c => c.isFilled
  | .ofQuery q => !q.clauses.isEmpty && q.clauses.all Clause.isFilled
  | _ => true

/-- **The constructs that can be written.** -/
def Construct.isWellFormed (c : Construct) : Bool :=
  c.isFilled && c.writtenExpressions.all fun e => e.parts.all Expression.isAdmissible

/-! ### Defects -/

/-- The error that an expression leads to, leaving aside those that stand in it. -/
def Expression.fault? : Expression → Option BuildError
  | .literal (.double x) => if x.isFinite then none else some (.malformed (.nonFiniteLiteral x))
  | .application op operands => (op.fault? operands.length).map .malformed
  | _ => none

/-- The error that a clause leads to by what it lacks. -/
def Clause.fault? : Clause → Option BuildError
  | .matching c =>
      if c.patterns.isEmpty then some (.malformed (.noPattern c.keyword)) else none
  | .creating patterns =>
      if patterns.isEmpty then some (.malformed (.noPattern "CREATE")) else none
  | .setting assignments => if assignments.isEmpty then some (.malformed .nothingSet) else none
  | .deleting _ items => if items.isEmpty then some (.malformed .nothingDeleted) else none
  | _ => none

/-- The errors that a construct leads to by what it lacks. -/
def Construct.faults : Construct → List BuildError
  | .ofOpenPattern _ => [.incompletePattern]
  | .ofClause c => c.fault?.toList
  | .ofQuery q =>
      if q.clauses.isEmpty then [.malformed .noClause] else q.clauses.filterMap Clause.fault?
  | _ => []

/-- An operator is refused exactly the numbers of operands that it does not admit. -/
theorem Operator.fault?_eq_none_iff (op : Operator) (operands : Nat) :
    op.fault? operands = none ↔ op.admits operands = true := by
  have hpos : operands ≠ 0 ↔ 0 < operands := Nat.pos_iff_ne_zero.symm
  cases op <;> simp [fault?, family, admits, hpos]

theorem Expression.fault?_eq_none_iff (e : Expression) :
    e.fault? = none ↔ e.isAdmissible = true := by
  cases e with
  | literal l => cases l <;> simp [fault?, isAdmissible]
  | application op operands =>
      simp [fault?, isAdmissible, Operator.fault?_eq_none_iff]
  | _ => simp [fault?, isAdmissible]

theorem Clause.fault?_eq_none_iff (c : Clause) : c.fault? = none ↔ c.isFilled = true := by
  cases c <;> simp [fault?, isFilled]

theorem Construct.faults_eq_nil_iff (c : Construct) : c.faults = [] ↔ c.isFilled = true := by
  cases c with
  | ofClause c => simp [faults, isFilled, Clause.fault?_eq_none_iff]
  | ofQuery q =>
      have hclauses : q.clauses.filterMap Clause.fault? = [] ↔
          ∀ c ∈ q.clauses, c.isFilled = true := by
        simp [List.filterMap_eq_nil_iff, Clause.fault?_eq_none_iff]
      cases hempty : q.clauses.isEmpty <;> simp [faults, isFilled, hempty, hclauses]
  | _ => simp [faults, isFilled]

/-! ### Pieces of templates put together -/

/-- Pieces that are neither fixed text nor the name of a variable. -/
structure Piece.IsSpecial (piece : Piece) : Prop where
  /-- It is no fixed text. -/
  ne_text : ∀ s, piece ≠ .text s
  /-- It is not the name of a variable. -/
  ne_variableName : ∀ v, piece ≠ .variableName v

theorem Piece.isSpecial_fault (e : BuildError) : (Piece.fault e).IsSpecial :=
  ⟨fun _ => Piece.noConfusion, fun _ => Piece.noConfusion⟩

theorem Piece.isSpecial_labelSign : Piece.labelSign.IsSpecial :=
  ⟨fun _ => Piece.noConfusion, fun _ => Piece.noConfusion⟩

theorem Template.mem_joined {sign piece : Piece} (h : piece ≠ sign) {ts : List Template} :
    piece ∈ joined sign ts ↔ ∃ t ∈ ts, piece ∈ t := by
  induction ts with
  | nil => simp
  | cons t rest ih =>
      cases rest with
      | nil => simp
      | cons u rest => simp [joined_cons_cons, h, ih]

section Special

variable {piece : Piece} (h : piece.IsSpecial)

include h

/-- What stands in templates with a text between them. -/
theorem Template.mem_joined_map {α : Type} (sep : String) (template : α → Template)
    (as : List α) :
    piece ∈ joined (.text sep) (as.map template) ↔ ∃ a ∈ as, piece ∈ template a := by
  rw [mem_joined (h.ne_text sep)]
  simp

namespace Expression

theorem mem_besideTemplate (operand : Expression) (t : Template) :
    piece ∈ besideTemplate operand t ↔ piece ∈ t := by
  unfold besideTemplate
  split <;> simp [h.ne_text]

/-- What stands in an application stands in the operands. -/
theorem mem_composeTemplate (op : Operator) (operands : List Expression) :
    piece ∈ op.composeTemplate (operands.map template)
        (List.zipWith besideTemplate operands (operands.map template)) ↔
      ∃ x ∈ operands, piece ∈ x.template := by
  have halone := Template.mem_joined_map h (" " ++ op.keyword ++ " ") template operands
  have hbeside := Template.mem_joined_map h (" " ++ op.keyword ++ " ")
    (fun x => besideTemplate x x.template) operands
  simp only [mem_besideTemplate h] at hbeside
  simp only [Operator.composeTemplate, zipWith_beside]
  cases op.family with
  | arithmetic => simpa [h.ne_text] using hbeside
  | comparison => exact hbeside
  | connective =>
      dsimp only
      split
      · exact halone
      · simpa [h.ne_text] using halone
  | before => simpa [h.ne_text] using halone
  | after => simpa [h.ne_text] using hbeside

/-- What stands in a map stands in the values. -/
theorem mem_mapTemplate (entries : List (String × Expression)) :
    piece ∈ mapTemplate (entryTemplates entries) ↔
      ∃ x ∈ entries.map Prod.snd, piece ∈ x.template := by
  have hjoined := Template.mem_joined_map h ", " entryTemplate entries
  simp only [entryTemplate, List.mem_cons, h.ne_text, false_or] at hjoined
  simp only [List.mem_map, exists_exists_and_eq_and, ← hjoined]
  simp [mapTemplate, entryTemplates_eq_map, h.ne_text]

end Expression

theorem mem_propertiesTemplate (first : Bool) (properties : List (String × Expression)) :
    piece ∈ propertiesTemplate first properties ↔
      ∃ x ∈ properties.map Prod.snd, piece ∈ x.template := by
  have hmap := Expression.mem_mapTemplate h properties
  unfold propertiesTemplate
  split
  next hempty => simp [List.isEmpty_iff.1 hempty]
  next => cases first <;> simpa [h.ne_text] using hmap

theorem not_mem_nameTemplate (v : Variable) (shown : Bool) : piece ∉ nameTemplate v shown := by
  cases shown <;> simp [nameTemplate, h.ne_variableName]

/-- What stands in a relationship stands in its properties. -/
theorem RelationshipPattern.mem_template (rel : RelationshipPattern) (annotated : Bool) :
    piece ∈ rel.template annotated ↔
      annotated = true ∧ ∃ x ∈ rel.properties.map Prod.snd, piece ∈ x.template := by
  have harrow : ∀ t : Template, piece ∈ rel.direction.arrowTemplate t ↔ piece ∈ t := by
    intro t
    cases rel.direction <;> simp [Direction.arrowTemplate, h.ne_text]
  have hname := not_mem_nameTemplate h rel.identity rel.showsVariable
  rw [template, harrow]
  cases annotated <;> simp [annotationTemplate, hname, h.ne_text, mem_propertiesTemplate h]

theorem Column.mem_template (c : Column) :
    piece ∈ c.template ↔ piece ∈ c.expression.template := by
  cases c <;> simp [template, expression, h.ne_text, h.ne_variableName]

theorem mem_columnsTemplate (columns : List Column) :
    piece ∈ columnsTemplate columns ↔
      ∃ x ∈ columns.map Column.expression, piece ∈ x.template := by
  have hjoined := Template.mem_joined_map h ", " Column.template columns
  unfold columnsTemplate
  split
  next hempty => simp [List.isEmpty_iff.1 hempty, h.ne_text]
  next => simp [hjoined, Column.mem_template h]

theorem mem_partTemplate (keyword : String) (part : Option Expression) :
    piece ∈ partTemplate keyword part ↔ ∃ x ∈ part.toList, piece ∈ x.template := by
  cases part <;> simp [partTemplate, h.ne_text]

theorem mem_sortItemsTemplate (items : List SortItem) :
    piece ∈ sortItemsTemplate items ↔
      ∃ x ∈ items.map SortItem.expression, piece ∈ x.template := by
  have hjoined := Template.mem_joined_map h ", " SortItem.template items
  unfold sortItemsTemplate
  split
  next hempty => simp [List.isEmpty_iff.1 hempty]
  next => simp [hjoined, SortItem.template, h.ne_text]

theorem Assignment.mem_template (a : Assignment) :
    piece ∈ a.template ↔ ∃ x ∈ [a.base, a.value], piece ∈ x.template := by
  simp [template, target, Expression.template, h.ne_text]

end Special

theorem exists_mem_flatMap {α β : Type} {f : α → List β} {as : List α} {p : β → Prop} :
    (∃ b ∈ as.flatMap f, p b) ↔ ∃ a ∈ as, ∃ b ∈ f a, p b := by
  simp only [List.mem_flatMap]
  exact ⟨fun ⟨b, ⟨a, ha, hb⟩, h⟩ => ⟨a, ha, b, hb, h⟩,
    fun ⟨a, ha, b, hb, h⟩ => ⟨b, ⟨a, ha, hb⟩, h⟩⟩

/-- The faults of a list that may not be empty: that it is, and those of its items. -/
theorem Template.fault_mem_filled {α : Type} {template : α → Template}
    {expressions : α → List Expression}
    (h : ∀ a e, .fault e ∈ template a ↔ ∃ x ∈ expressions a, .fault e ∈ x.template)
    (start : String) (absent : BuildError) (as : List α) (e : BuildError) :
    Piece.fault e ∈ (if as.isEmpty then [.fault absent]
        else .text start :: joined (.text ", ") (as.map template)) ↔
      (if as.isEmpty then some absent else none) = some e ∨
        ∃ x ∈ as.flatMap expressions, .fault e ∈ x.template := by
  have hjoined := mem_joined_map (Piece.isSpecial_fault e) ", " template as
  rw [exists_mem_flatMap]
  split
  next hempty => simp [List.isEmpty_iff.1 hempty, eq_comm]
  next => simp [hjoined, h]

/-! ### Expressions -/

namespace Expression

/-- The faults of an expression are its own and those of the expressions right below it. -/
theorem fault_mem_template_children (x : Expression) (e : BuildError) :
    .fault e ∈ x.template ↔
      x.fault? = some e ∨ ∃ child ∈ x.children, .fault e ∈ child.template := by
  cases x with
  | literal l =>
      cases l with
      | double x =>
          cases hfinite : x.isFinite <;>
            simp [template, Literal.template, Literal.write, fault?, children, hfinite, eq_comm]
      | _ => simp [template, Literal.template, Literal.write, fault?, children]
  | reference v => simp [template, fault?, children]
  | placeholder p => simp [template, fault?, children]
  | property base key => simp [template, fault?, children]
  | application op operands =>
      have hcompose := mem_composeTemplate (Piece.isSpecial_fault e) op operands
      simp only [template, templates_eq_map, applicationTemplate, fault?, children]
      cases op.fault? operands.length with
      | some cause => simp [eq_comm]
      | none => simpa using hcompose
  | call function arguments =>
      have hjoined := Template.mem_joined_map (Piece.isSpecial_fault e) ", " template arguments
      simp [template, templates_eq_map, fault?, children, hjoined]
  | list items =>
      have hjoined := Template.mem_joined_map (Piece.isSpecial_fault e) ", " template items
      simp [template, templates_eq_map, fault?, children, hjoined]
  | map entries =>
      have hentries := mem_mapTemplate (Piece.isSpecial_fault e) entries
      simpa [template, fault?, children] using hentries
  | identityOf v => simp [template, fault?, children]
  | labelsOf v => simp [template, fault?, children]
  | raw text => simp [template, fault?, children]

/-- **The faults of the template of an expression** are those of the expressions in it. -/
theorem fault_mem_template_iff (x : Expression) (e : BuildError) :
    .fault e ∈ x.template ↔ ∃ part ∈ x.parts, part.fault? = some e := by
  induction x using induction_children with
  | h x ih =>
      rw [fault_mem_template_children, parts_eq]
      simp only [List.mem_cons, exists_mem_flatMap, exists_eq_or_imp]
      exact or_congr_right (exists_congr fun child => and_congr_right fun hchild => ih child hchild)

end Expression

/-! ### Patterns -/

theorem NodePattern.fault_mem_template (node : NodePattern) (annotated : Bool) (e : BuildError) :
    .fault e ∈ node.template annotated ↔
      annotated = true ∧ ∃ x ∈ node.properties.map Prod.snd, .fault e ∈ x.template := by
  have hlabels : .fault e ∉ node.labelTemplate := by
    unfold labelTemplate
    split
    · exact List.not_mem_nil
    · rw [List.mem_cons, Template.mem_joined Piece.noConfusion]
      simp
  have hspecial := Piece.isSpecial_fault e
  have hname := not_mem_nameTemplate hspecial node.identity node.showsVariable
  cases annotated <;>
    simp [template, annotationTemplate, hname, hlabels, mem_propertiesTemplate hspecial]

theorem NodePattern.fault_mem_written {shownVariables : List Variable}
    {earlier : List PatternElement}
    (h : ∀ v, shownVariables.contains v = PatternElement.showsAny earlier v)
    {node : NodePattern} {e : BuildError} :
    .fault e ∈ node.template (node.annotatedAfter shownVariables) ↔
      ∃ x ∈ node.element.writtenAfter earlier, .fault e ∈ x.template := by
  have hannotated : node.annotatedAfter shownVariables = !node.element.repeats earlier :=
    isAnnotated_eq_not_repeats h node.element
  rw [hannotated, fault_mem_template, PatternElement.writtenAfter]
  cases node.element.repeats earlier <;> simp [element]

theorem RelationshipPattern.fault_mem_written {shownVariables : List Variable}
    {earlier : List PatternElement}
    (h : ∀ v, shownVariables.contains v = PatternElement.showsAny earlier v)
    {rel : RelationshipPattern} {e : BuildError} :
    .fault e ∈ rel.template (rel.annotatedAfter shownVariables) ↔
      ∃ x ∈ rel.element.writtenAfter earlier, .fault e ∈ x.template := by
  have hannotated : rel.annotatedAfter shownVariables = !rel.element.repeats earlier :=
    isAnnotated_eq_not_repeats h rel.element
  rw [hannotated, mem_template (Piece.isSpecial_fault e), PatternElement.writtenAfter]
  cases rel.element.repeats earlier <;> simp [element]

/-- The elements before an element and the variables that they show are kept in step. -/
theorem Hop.fault_mem_templateAll (e : BuildError) (hops : List Hop) :
    ∀ (shownVariables : List Variable) (earlier : List PatternElement),
      (∀ v, shownVariables.contains v = PatternElement.showsAny earlier v) →
      (.fault e ∈ Hop.templateAll shownVariables hops ↔
        ∃ x ∈ PatternElement.writtenExpressions earlier (Hop.elements hops),
          .fault e ∈ x.template) := by
  induction hops with
  | nil =>
      intro shownVariables earlier _
      simp [templateAll, elements, PatternElement.writtenExpressions]
  | cons hop rest ih =>
      intro shownVariables earlier h
      have hrel := contains_shownBefore h hop.relationship.element
      have hnode := contains_shownBefore hrel hop.node.element
      have helements : Hop.elements (hop :: rest) =
          hop.relationship.element :: hop.node.element :: Hop.elements rest := rfl
      rw [helements]
      simp only [templateAll, PatternElement.writtenExpressions, List.mem_append, or_and_right,
        exists_or, ← ih _ _ hnode, ← RelationshipPattern.fault_mem_written h,
        ← NodePattern.fault_mem_written hrel]
      rfl

theorem Pattern.fault_mem_template_iff (p : Pattern) (e : BuildError) :
    .fault e ∈ p.template ↔ ∃ x ∈ p.writtenExpressions, .fault e ∈ x.template := by
  have hnone : ∀ v, ([] : List Variable).contains v = PatternElement.showsAny [] v :=
    fun _ => rfl
  have hstart := contains_shownBefore hnone p.start.element
  simp only [template, writtenExpressions, elements, PatternElement.writtenExpressions,
    List.mem_append, or_and_right, exists_or, ← Hop.fault_mem_templateAll e p.hops _ _ hstart,
    ← NodePattern.fault_mem_written hnone]
  rfl

/-! ### Clauses -/

theorem fault_mem_patternsTemplate (keyword : String) (patterns : List Pattern) (e : BuildError) :
    .fault e ∈ patternsTemplate keyword patterns ↔
      (if patterns.isEmpty then some (.malformed (.noPattern keyword)) else none) = some e ∨
        ∃ x ∈ patterns.flatMap Pattern.writtenExpressions, .fault e ∈ x.template :=
  Template.fault_mem_filled Pattern.fault_mem_template_iff (keyword ++ " ") _ patterns e

theorem fault_mem_assignmentsTemplate (assignments : List Assignment) (e : BuildError) :
    .fault e ∈ assignmentsTemplate assignments ↔
      (if assignments.isEmpty then some (.malformed .nothingSet) else none) = some e ∨
        ∃ x ∈ assignments.flatMap fun a => [a.base, a.value], .fault e ∈ x.template :=
  Template.fault_mem_filled (fun a e => a.mem_template (Piece.isSpecial_fault e)) "SET " _ assignments e

theorem fault_mem_deletionsTemplate (detached : Bool) (items : List Expression)
    (e : BuildError) :
    .fault e ∈ deletionsTemplate detached items ↔
      (if items.isEmpty then some (.malformed .nothingDeleted) else none) = some e ∨
        ∃ x ∈ items, .fault e ∈ x.template := by
  have hitem : ∀ (x : Expression) (e : BuildError),
      .fault e ∈ x.template ↔ ∃ y ∈ [x], .fault e ∈ y.template := by simp
  have hfilled := Template.fault_mem_filled hitem
    (if detached then "DETACH DELETE " else "DELETE ") (.malformed .nothingDeleted) items e
  rwa [List.flatMap_singleton'] at hfilled

/-- **The faults of the template of a clause** come from what it lacks and from the expressions that
it writes. -/
theorem Clause.fault_mem_template_iff (c : Clause) (e : BuildError) :
    .fault e ∈ c.template ↔
      c.fault? = some e ∨ ∃ x ∈ c.writtenExpressions, .fault e ∈ x.template := by
  have hspecial := Piece.isSpecial_fault e
  have hpart := mem_partTemplate hspecial
  have hcolumns := mem_columnsTemplate hspecial
  cases c with
  | matching c =>
      simp only [template, List.mem_append, fault_mem_patternsTemplate, hpart,
        fault?, writtenExpressions, or_and_right, exists_or, or_assoc]
  | creating patterns => exact fault_mem_patternsTemplate "CREATE" patterns e
  | merging pattern =>
      simp [template, Pattern.fault_mem_template_iff, fault?, writtenExpressions]
  | handingOn c =>
      simp [template, hcolumns, hpart, fault?,
        writtenExpressions, expressions, or_and_right, exists_or]
  | unwinding items name => simp [template, fault?, writtenExpressions, expressions]
  | setting assignments => exact fault_mem_assignmentsTemplate assignments e
  | deleting detached items => exact fault_mem_deletionsTemplate detached items e
  | returning c =>
      simp [template, hcolumns, mem_sortItemsTemplate hspecial,
        hpart, fault?, writtenExpressions, expressions, or_and_right, exists_or]

theorem Query.fault_mem_template_iff (q : Query) (e : BuildError) :
    .fault e ∈ q.template ↔
      e ∈ (Construct.ofQuery q).faults ∨
        ∃ x ∈ (Construct.ofQuery q).writtenExpressions, .fault e ∈ x.template := by
  have hjoined := Template.mem_joined_map (Piece.isSpecial_fault e) "\n" Clause.template q.clauses
  rw [template, Construct.faults, Construct.writtenExpressions, exists_mem_flatMap]
  split
  next hempty => simp [List.isEmpty_iff.1 hempty]
  next => simp only [hjoined, Clause.fault_mem_template_iff, and_or_left, exists_or,
      List.mem_filterMap]

/-! ### Constructs -/

namespace Construct

/-- **The faults of the template of a construct** come from what it lacks and from the expressions
that are written. -/
theorem fault_mem_template_iff (c : Construct) (e : BuildError) :
    .fault e ∈ c.template ↔
      e ∈ c.faults ∨ ∃ x ∈ c.writtenExpressions, ∃ part ∈ x.parts, part.fault? = some e := by
  simp only [← Expression.fault_mem_template_iff]
  cases c with
  | ofExpression x => simp [template, faults, writtenExpressions, expressions]
  | ofVariable v => simp [template, faults, writtenExpressions, expressions]
  | ofParameter p => simp [template, faults, writtenExpressions, expressions]
  | ofPattern p => simp [template, faults, writtenExpressions, Pattern.fault_mem_template_iff]
  | ofOpenPattern p => simp [template, faults, writtenExpressions, expressions]
  | ofColumn c =>
      simp [template, faults, writtenExpressions, expressions,
        Column.mem_template (Piece.isSpecial_fault e)]
  | ofClause c =>
      simp [template, faults, writtenExpressions, Clause.fault_mem_template_iff]
  | ofQuery q => exact q.fault_mem_template_iff e

/-- **The templates of well-formed constructs have no faults**, and no others. -/
theorem isWellFormed_iff (c : Construct) :
    c.isWellFormed = true ↔ ∀ e, .fault e ∉ c.template := by
  have hparts : (∀ x ∈ c.writtenExpressions, ∀ part ∈ x.parts, part.isAdmissible = true) ↔
      ∀ e, ¬ ∃ x ∈ c.writtenExpressions, ∃ part ∈ x.parts, part.fault? = some e := by
    simp only [← Expression.fault?_eq_none_iff, Option.eq_none_iff_forall_ne_some]
    constructor
    · rintro h e ⟨x, hx, part, hpart, he⟩
      exact h x hx part hpart e he
    · intro h x hx part hpart e he
      exact h e ⟨x, hx, part, hpart, he⟩
  simp only [isWellFormed, Bool.and_eq_true, List.all_eq_true, hparts, ← faults_eq_nil_iff,
    fault_mem_template_iff, not_or, forall_and, List.eq_nil_iff_forall_not_mem]

end Construct

end CypherQuery
