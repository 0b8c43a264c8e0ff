/-
**Templates of clauses, queries and all other constructs.**

Main definitions:

* `CypherQuery.Construct.template` — **the template of a construct**;
* `CypherQuery.Construct.occurrences` — the identities of a construct, from left to right;
* `CypherQuery.Construct.expressions` — the expressions of a construct.

Main results:

* `CypherQuery.Construct.quiet_render` — **writing a construct is running its template**, apart from
  log records below level `debug`;
* `CypherQuery.Construct.environment_render`, `CypherQuery.Construct.result_render` — in
  particular, both lead to the same result and the same environment;
* `CypherQuery.Construct.occurrences_template` — the template has the identities of the construct.
-/

import CypherQuery.Construct
import CypherQuery.Proofs.Template.Pattern

set_option autoImplicit false

namespace CypherQuery

/-! ### Templates -/

/-- The template of a column. -/
def Column.template : Column → Template
  | .plain e => e.template
  | .aliased e name => e.template ++ [.text " AS ", .variableName name]

/-- The template of the columns of a projection. -/
def columnsTemplate (columns : List Column) : Template :=
  if columns.isEmpty then [.text "*"]
  else Template.joined (.text ", ") (columns.map Column.template)

/-- The template of a keyword and patterns. -/
def patternsTemplate (keyword : String) (patterns : List Pattern) : Template :=
  if patterns.isEmpty then [.fault (.malformed (.noPattern keyword))]
  else .text (keyword ++ " ") :: Template.joined (.text ", ") (patterns.map Pattern.template)

/-- The template of a part that may be absent. -/
def partTemplate (keyword : String) : Option Expression → Template
  | none => []
  | some e => .text ("\n" ++ keyword ++ " ") :: e.template

/-- The template of a sort item. -/
def SortItem.template (item : SortItem) : Template :=
  item.expression.template ++ [.text (" " ++ item.order.keyword)]

/-- The template of the sort items. -/
def sortItemsTemplate (items : List SortItem) : Template :=
  if items.isEmpty then []
  else .text "\nORDER BY " :: Template.joined (.text ", ") (items.map SortItem.template)

/-- The template of an assignment. -/
def Assignment.template (a : Assignment) : Template :=
  a.target.template ++ .text " = " :: a.value.template

/-- The template of a clause that assigns properties. -/
def assignmentsTemplate (assignments : List Assignment) : Template :=
  if assignments.isEmpty then [.fault (.malformed .nothingSet)]
  else .text "SET " :: Template.joined (.text ", ") (assignments.map Assignment.template)

/-- The template of a clause that deletes. -/
def deletionsTemplate (detached : Bool) (items : List Expression) : Template :=
  if items.isEmpty then [.fault (.malformed .nothingDeleted)]
  else
    .text (if detached then "DETACH DELETE " else "DELETE ") ::
      Template.joined (.text ", ") (items.map Expression.template)

/-- **The template of a clause.** -/
def Clause.template : Clause → Template
  | .matching c => patternsTemplate c.keyword c.patterns ++ partTemplate "WHERE" c.condition
  | .creating patterns => patternsTemplate "CREATE" patterns
  | .merging pattern => .text "MERGE " :: pattern.template
  | .handingOn c =>
      .text ("WITH " ++ distinctText c.distinct) ::
        (columnsTemplate c.columns ++ partTemplate "WHERE" c.condition)
  | .unwinding items name =>
      .text "UNWIND " :: (items.template ++ [.text " AS ", .variableName name])
  | .setting assignments => assignmentsTemplate assignments
  | .deleting detached items => deletionsTemplate detached items
  | .returning c =>
      .text ("RETURN " ++ distinctText c.distinct) ::
        (columnsTemplate c.columns ++ (sortItemsTemplate c.sortItems ++
          (partTemplate "SKIP" c.skipped ++ partTemplate "LIMIT" c.limit)))

/-- **The template of a query.** -/
def Query.template (q : Query) : Template :=
  if q.clauses.isEmpty then [.fault (.malformed .noClause)]
  else Template.joined (.text "\n") (q.clauses.map Clause.template)

/-- **The template of a construct.** -/
def Construct.template : Construct → Template
  | .ofExpression e => e.template
  | .ofVariable v => [.variableName v]
  | .ofParameter p => [.parameterName p]
  | .ofPattern p => p.template
  | .ofOpenPattern _ => [.fault .incompletePattern]
  | .ofColumn c => c.template
  | .ofClause c => c.template
  | .ofQuery q => q.template

/-! ### Identities -/

/-- The identities of a column: those of the expression, then the name. -/
def Column.occurrences : Column → List Occurrence
  | .plain e => e.occurrences
  | .aliased e name => e.occurrences ++ [.variableAt name]

/-- The identities of a part that may be absent. -/
def partOccurrences : Option Expression → List Occurrence
  | none => []
  | some e => e.occurrences

/-- The identities of an assignment: those of the target, then those of the value. -/
def Assignment.occurrences (a : Assignment) : List Occurrence :=
  a.base.occurrences ++ a.value.occurrences

/-- The identities of a clause: those of its parts, in the order in which they are written. -/
def Clause.occurrences : Clause → List Occurrence
  | .matching c => c.patterns.flatMap Pattern.occurrences ++ partOccurrences c.condition
  | .creating patterns => patterns.flatMap Pattern.occurrences
  | .merging pattern => pattern.occurrences
  | .handingOn c => c.columns.flatMap Column.occurrences ++ partOccurrences c.condition
  | .unwinding items name => items.occurrences ++ [.variableAt name]
  | .setting assignments => assignments.flatMap Assignment.occurrences
  | .deleting _ items => items.flatMap Expression.occurrences
  | .returning c =>
      c.columns.flatMap Column.occurrences ++
        ((c.sortItems.flatMap fun item => item.expression.occurrences) ++
          (partOccurrences c.skipped ++ partOccurrences c.limit))

/-- **The identities of a construct, from left to right.** -/
def Construct.occurrences : Construct → List Occurrence
  | .ofExpression e => e.occurrences
  | .ofVariable v => [.variableAt v]
  | .ofParameter p => [.parameterAt p]
  | .ofPattern p => p.occurrences
  | .ofOpenPattern _ => []
  | .ofColumn c => c.occurrences
  | .ofClause c => c.occurrences
  | .ofQuery q => q.clauses.flatMap Clause.occurrences

/-! ### The expressions of a construct -/

/-- The expressions of a pattern: those of the properties of its elements. -/
def Pattern.expressions (p : Pattern) : List Expression :=
  p.elements.flatMap fun x => x.properties.map Prod.snd

/-- The expression of a column. -/
def Column.expression : Column → Expression
  | .plain e => e
  | .aliased e _ => e

theorem Column.occurrences_eq (c : Column) :
    c.occurrences = c.expression.occurrences ++ c.alias?.toList.map .variableAt := by
  cases c with
  | plain e => exact (List.append_nil _).symm
  | aliased e name => rfl

/-- The expressions of a clause. -/
def Clause.expressions : Clause → List Expression
  | .matching c => c.patterns.flatMap Pattern.expressions ++ c.condition.toList
  | .creating patterns => patterns.flatMap Pattern.expressions
  | .merging pattern => pattern.expressions
  | .handingOn c => c.columns.map Column.expression ++ c.condition.toList
  | .unwinding items _ => [items]
  | .setting assignments => assignments.flatMap fun a => [a.base, a.value]
  | .deleting _ items => items
  | .returning c =>
      c.columns.map Column.expression ++ c.sortItems.map SortItem.expression ++
        c.skipped.toList ++ c.limit.toList

/-- **The expressions of a construct.**  An open pattern has no text. -/
def Construct.expressions : Construct → List Expression
  | .ofExpression e => [e]
  | .ofVariable _ | .ofParameter _ | .ofOpenPattern _ => []
  | .ofPattern p => p.expressions
  | .ofColumn c => [c.expression]
  | .ofClause c => c.expressions
  | .ofQuery q => q.clauses.flatMap Clause.expressions

/-! ### Running the template of a construct -/

theorem Column.quiet_render (c : Column) : BuildM.quiet c.render = c.template.run := by
  cases c with
  | plain e => exact e.quiet_render
  | aliased e name =>
      simp [-bind_pure_comp, render, template, Expression.quiet_render, Template.run_cons,
        Piece.run, String.append_assoc]

theorem quiet_renderColumns (columns : List Column) :
    BuildM.quiet (renderColumns columns) = (columnsTemplate columns).run := by
  have hjoined := Template.quiet_each_bind_joined Column.quiet_render ", " columns
  unfold renderColumns columnsTemplate
  cases columns.isEmpty
  · simpa [-bind_pure_comp, -BuildM.quiet_each] using hjoined
  · simp

theorem quiet_renderPatterns (keyword : String) (patterns : List Pattern) :
    BuildM.quiet (renderPatterns keyword patterns) = (patternsTemplate keyword patterns).run := by
  have hjoined := Template.quiet_each_bind_joined Pattern.quiet_render ", " patterns
  unfold renderPatterns patternsTemplate
  cases patterns.isEmpty
  · simp [-bind_pure_comp, -BuildM.quiet_each, Template.run_text_cons, ← hjoined,
      String.append_assoc]
  · simp [Piece.run]

theorem quiet_renderPart (keyword : String) (part : Option Expression) :
    BuildM.quiet (renderPart keyword part) = (partTemplate keyword part).run := by
  cases part with
  | none => rfl
  | some e =>
      simp [-bind_pure_comp, renderPart, partTemplate, Expression.quiet_render,
        Template.run_text_cons]

theorem SortItem.quiet_render (item : SortItem) :
    BuildM.quiet item.render = item.template.run := by
  simp [-bind_pure_comp, render, template, Expression.quiet_render, String.append_assoc]

theorem quiet_renderSortItems (items : List SortItem) :
    BuildM.quiet (renderSortItems items) = (sortItemsTemplate items).run := by
  have hjoined := Template.quiet_each_bind_joined SortItem.quiet_render ", " items
  unfold renderSortItems sortItemsTemplate
  cases items.isEmpty
  · simp [-bind_pure_comp, -BuildM.quiet_each, Template.run_text_cons, ← hjoined]
  · simp

theorem Assignment.quiet_render (a : Assignment) : BuildM.quiet a.render = a.template.run := by
  simp [-bind_pure_comp, render, template, Expression.quiet_render, Template.run_text_cons,
    String.append_assoc]

theorem quiet_renderAssignments (assignments : List Assignment) :
    BuildM.quiet (renderAssignments assignments) = (assignmentsTemplate assignments).run := by
  have hjoined := Template.quiet_each_bind_joined Assignment.quiet_render ", " assignments
  unfold renderAssignments assignmentsTemplate
  cases assignments.isEmpty
  · simp [-bind_pure_comp, -BuildM.quiet_each, Template.run_text_cons, ← hjoined]
  · simp [Piece.run]

theorem quiet_renderDeletions (detached : Bool) (items : List Expression) :
    BuildM.quiet (renderDeletions detached items) = (deletionsTemplate detached items).run := by
  have hjoined := Template.quiet_each_bind_joined Expression.quiet_render ", " items
  unfold renderDeletions deletionsTemplate
  cases items.isEmpty
  · simp [-bind_pure_comp, -BuildM.quiet_each, Expression.renderAll_eq_each,
      Template.run_text_cons, ← hjoined]
  · simp [Piece.run]

/-- **Writing a clause is running its template**, apart from log records. -/
theorem Clause.quiet_render (c : Clause) : BuildM.quiet c.render = c.template.run := by
  cases c with
  | matching c =>
      simp [-bind_pure_comp, render, MatchClause.render, template, quiet_renderPatterns,
        quiet_renderPart]
  | creating patterns => exact quiet_renderPatterns "CREATE" patterns
  | merging pattern =>
      simp [-bind_pure_comp, render, template, Pattern.quiet_render, Template.run_text_cons]
  | handingOn c =>
      simp [-bind_pure_comp, render, WithClause.render, template, quiet_renderColumns,
        quiet_renderPart, Template.run_text_cons, String.append_assoc]
  | unwinding items name =>
      simp [-bind_pure_comp, render, template, Expression.quiet_render, Template.run_cons,
        Piece.run, String.append_assoc]
  | setting assignments => exact quiet_renderAssignments assignments
  | deleting detached items => exact quiet_renderDeletions detached items
  | returning c =>
      simp [-bind_pure_comp, render, ReturnClause.render, template, quiet_renderColumns,
        quiet_renderSortItems, quiet_renderPart, Template.run_text_cons, String.append_assoc]

/-- **Writing a query is running its template**, apart from log records. -/
theorem Query.quiet_render (q : Query) : BuildM.quiet q.render = q.template.run := by
  have hjoined := Template.quiet_each_bind_joined Clause.quiet_render "\n" q.clauses
  unfold render template
  cases q.clauses.isEmpty
  · simpa [-bind_pure_comp, -BuildM.quiet_each] using hjoined
  · simp [Piece.run]

namespace Construct

/-- **Writing a construct is running its template**, apart from log records. -/
theorem quiet_render (c : Construct) : BuildM.quiet c.render = c.template.run := by
  cases c with
  | ofExpression e => exact e.quiet_render
  | ofVariable v => simp [render, template, Piece.run]
  | ofParameter p => simp [render, template, Piece.run]
  | ofPattern p => exact p.quiet_render
  | ofOpenPattern p => rfl
  | ofColumn c => exact c.quiet_render
  | ofClause c => exact c.quiet_render
  | ofQuery q => exact q.quiet_render

theorem result_render (c : Construct) (env : Environment) :
    (c.render env).result = (c.template.run env).result := by
  rw [← quiet_render, BuildM.result_quiet]

theorem environment_render (c : Construct) (env : Environment) :
    (c.render env).environment = (c.template.run env).environment := by
  rw [← quiet_render, BuildM.environment_quiet]

end Construct

/-! ### The identities of the template of a construct -/

theorem Template.occurrences_joined_map {α : Type} {template : α → Template}
    {occurrencesOf : α → List Occurrence} (h : ∀ a, (template a).occurrences = occurrencesOf a)
    (sep : String) (as : List α) :
    (Template.joined (.text sep) (as.map template)).occurrences = as.flatMap occurrencesOf := by
  rw [Template.occurrences_joined rfl, List.flatMap_map]
  exact List.flatMap_congr fun a _ => h a

theorem Column.occurrences_template (c : Column) : c.template.occurrences = c.occurrences := by
  cases c with
  | plain e => exact e.occurrences_template
  | aliased e name => simp [template, occurrences, Expression.occurrences_template]

theorem occurrences_columnsTemplate (columns : List Column) :
    (columnsTemplate columns).occurrences = columns.flatMap Column.occurrences := by
  unfold columnsTemplate
  split
  next h => rw [List.isEmpty_iff.1 h]; rfl
  next h => exact Template.occurrences_joined_map Column.occurrences_template ", " columns

theorem occurrences_patternsTemplate (keyword : String) (patterns : List Pattern) :
    (patternsTemplate keyword patterns).occurrences = patterns.flatMap Pattern.occurrences := by
  unfold patternsTemplate
  split
  next h => rw [List.isEmpty_iff.1 h]; rfl
  next h => exact Template.occurrences_joined_map Pattern.occurrences_template ", " patterns

theorem occurrences_partTemplate (keyword : String) (part : Option Expression) :
    (partTemplate keyword part).occurrences = partOccurrences part := by
  cases part with
  | none => rfl
  | some e => exact e.occurrences_template

theorem occurrences_sortItemsTemplate (items : List SortItem) :
    (sortItemsTemplate items).occurrences =
      items.flatMap fun item => item.expression.occurrences := by
  have hitem : ∀ item : SortItem,
      item.template.occurrences = item.expression.occurrences := by
    intro item
    simp [SortItem.template, Expression.occurrences_template]
  unfold sortItemsTemplate
  split
  next h => rw [List.isEmpty_iff.1 h]; rfl
  next h => exact Template.occurrences_joined_map hitem ", " items

theorem Assignment.occurrences_template (a : Assignment) :
    a.template.occurrences = a.occurrences := by
  simp [template, occurrences, target, Expression.occurrences_template, Expression.occurrences]

theorem occurrences_assignmentsTemplate (assignments : List Assignment) :
    (assignmentsTemplate assignments).occurrences =
      assignments.flatMap Assignment.occurrences := by
  unfold assignmentsTemplate
  split
  next h => rw [List.isEmpty_iff.1 h]; rfl
  next h =>
    exact Template.occurrences_joined_map Assignment.occurrences_template ", " assignments

theorem occurrences_deletionsTemplate (detached : Bool) (items : List Expression) :
    (deletionsTemplate detached items).occurrences = items.flatMap Expression.occurrences := by
  unfold deletionsTemplate
  split
  next h => rw [List.isEmpty_iff.1 h]; rfl
  next h => exact Template.occurrences_joined_map Expression.occurrences_template ", " items

theorem Clause.occurrences_template (c : Clause) : c.template.occurrences = c.occurrences := by
  cases c with
  | matching c =>
      simp [template, occurrences, occurrences_patternsTemplate, occurrences_partTemplate]
  | creating patterns => exact occurrences_patternsTemplate "CREATE" patterns
  | merging pattern => exact pattern.occurrences_template
  | handingOn c =>
      simp [template, occurrences, occurrences_columnsTemplate, occurrences_partTemplate]
  | unwinding items name => simp [template, occurrences, Expression.occurrences_template]
  | setting assignments => exact occurrences_assignmentsTemplate assignments
  | deleting detached items => exact occurrences_deletionsTemplate detached items
  | returning c =>
      simp [template, occurrences, occurrences_columnsTemplate, occurrences_sortItemsTemplate,
        occurrences_partTemplate]

theorem Query.occurrences_template (q : Query) :
    q.template.occurrences = q.clauses.flatMap Clause.occurrences := by
  unfold template
  split
  next h => rw [List.isEmpty_iff.1 h]; rfl
  next h => exact Template.occurrences_joined_map Clause.occurrences_template "\n" q.clauses

/-- **The template of a construct has the identities of the construct**, in the same order. -/
theorem Construct.occurrences_template (c : Construct) :
    c.template.occurrences = c.occurrences := by
  cases c with
  | ofExpression e => exact e.occurrences_template
  | ofVariable v => rfl
  | ofParameter p => rfl
  | ofPattern p => exact p.occurrences_template
  | ofOpenPattern p => rfl
  | ofColumn c => exact c.occurrences_template
  | ofClause c => exact c.occurrences_template
  | ofQuery q => exact q.occurrences_template

end CypherQuery
