/-
**Templates of expressions.**

Main definitions:

* `CypherQuery.Expression.template` — **the template of an expression**;
* `CypherQuery.Expression.occurrences` — the identities of an expression, from left to right.

Main results:

* `CypherQuery.Expression.quiet_render` — **writing an expression is running its template**, apart
  from log records below level `debug`;
* `CypherQuery.Expression.occurrences_template` — the template has the identities of the
  expression;
* `CypherQuery.Expression.template_subset_of_mem_parts` — what stands in the template of a part
  stands in the template of the whole.
-/

import CypherQuery.Proofs.Subterms
import CypherQuery.Proofs.Template

set_option autoImplicit false

namespace CypherQuery

/-! ### Constants and applications -/

/-- The template of a constant. -/
def Literal.template (l : Literal) : Template :=
  match l.write with
  | .ok written => [.text written]
  | .error cause => [.fault (.malformed cause)]

/-- The template of an application, from the operands as they stand for themselves and as they
stand beside an operator. -/
def Operator.composeTemplate (op : Operator) (alone beside : List Template) : Template :=
  let joined := Template.joined (.text (" " ++ op.keyword ++ " "))
  match op.family with
  | .arithmetic => .text "(" :: joined beside ++ [.text ")"]
  | .comparison => joined beside
  | .connective =>
      if alone.length = 1 then joined alone else .text "(" :: joined alone ++ [.text ")"]
  | .before => .text (op.keyword ++ " (") :: joined alone ++ [.text ")"]
  | .after => joined beside ++ [.text (" " ++ op.keyword)]

namespace Expression

/-- The template of an operand beside an operator. -/
def besideTemplate (operand : Expression) (t : Template) : Template :=
  if operand.isUndelimited then .text "(" :: t ++ [.text ")"] else t

/-- The template of an application.  With a wrong number of operands nothing is written; the
operands are listed all the same. -/
def applicationTemplate (op : Operator) (operands : List Expression) (ts : List Template) :
    Template :=
  match op.fault? operands.length with
  | some cause => .fault (.malformed cause) :: ts.flatten
  | none => op.composeTemplate ts (List.zipWith besideTemplate operands ts)

/-- The template of a map, from those of its entries. -/
def mapTemplate (entries : List Template) : Template :=
  .text "\x7b" :: Template.joined (.text ", ") entries ++ [.text "\x7d"]

mutual

/-- **The template of an expression.** -/
def template : Expression → Template
  | .literal l => l.template
  | .reference v => [.variableName v]
  | .placeholder p => [.parameterName p]
  | .property base key => template base ++ [.text ("." ++ Identifier.escape key)]
  | .application op operands => applicationTemplate op operands (templates operands)
  | .call function arguments =>
      .text (function ++ "(") :: Template.joined (.text ", ") (templates arguments) ++ [.text ")"]
  | .list items => .text "[" :: Template.joined (.text ", ") (templates items) ++ [.text "]"]
  | .map entries => mapTemplate (entryTemplates entries)
  | .identityOf v => [.text "id(", .variableName v, .text ")"]
  | .labelsOf v => [.text "labels(", .variableName v, .text ")"]
  | .raw text => [.text text]

/-- The templates of expressions. -/
def templates : List Expression → List Template
  | [] => []
  | e :: rest => template e :: templates rest

/-- The templates of entries, each a key and an expression. -/
def entryTemplates : List (String × Expression) → List Template
  | [] => []
  | (key, e) :: rest => (.text (Identifier.escape key ++ ": ") :: template e) :: entryTemplates rest

end

mutual

/-- **The identities of an expression, from left to right.** -/
def occurrences : Expression → List Occurrence
  | .literal _ => []
  | .reference v => [.variableAt v]
  | .placeholder p => [.parameterAt p]
  | .property base _ => occurrences base
  | .application _ operands => occurrencesAll operands
  | .call _ arguments => occurrencesAll arguments
  | .list items => occurrencesAll items
  | .map entries => occurrencesEntries entries
  | .identityOf v => [.variableAt v]
  | .labelsOf v => [.variableAt v]
  | .raw _ => []

/-- The identities of expressions. -/
def occurrencesAll : List Expression → List Occurrence
  | [] => []
  | e :: rest => occurrences e ++ occurrencesAll rest

/-- The identities of entries; the keys have none. -/
def occurrencesEntries : List (String × Expression) → List Occurrence
  | [] => []
  | (_, e) :: rest => occurrences e ++ occurrencesEntries rest

end

/-- The template of an entry. -/
def entryTemplate (entry : String × Expression) : Template :=
  .text (Identifier.escape entry.1 ++ ": ") :: entry.2.template

theorem templates_eq_map (es : List Expression) : templates es = es.map template := by
  induction es with
  | nil => rfl
  | cons e rest ih => simp [templates, ih]

theorem entryTemplates_eq_map (entries : List (String × Expression)) :
    entryTemplates entries = entries.map entryTemplate := by
  induction entries with
  | nil => rfl
  | cons entry rest ih => simp [entryTemplates, entryTemplate, ih]

theorem occurrencesAll_eq_flatMap (es : List Expression) :
    occurrencesAll es = es.flatMap occurrences := by
  induction es with
  | nil => rfl
  | cons e rest ih => simp [occurrencesAll, ih]

theorem occurrencesEntries_eq_flatMap (entries : List (String × Expression)) :
    occurrencesEntries entries = entries.flatMap fun entry => entry.2.occurrences := by
  induction entries with
  | nil => rfl
  | cons entry rest ih => simp [occurrencesEntries, ih]

/-! ### The identities of a template -/

theorem occurrences_besideTemplate (operand : Expression) (t : Template) :
    (besideTemplate operand t).occurrences = t.occurrences := by
  unfold besideTemplate
  split <;> simp

theorem zipWith_beside (operands : List Expression) :
    List.zipWith besideTemplate operands (operands.map template) =
      operands.map fun operand => besideTemplate operand operand.template := by
  rw [List.zipWith_map_right, List.zipWith_self]

theorem flatMap_occurrences_beside (operands : List Expression) :
    (List.zipWith besideTemplate operands (operands.map template)).flatMap
      Template.occurrences = (operands.map template).flatMap Template.occurrences := by
  rw [zipWith_beside, List.flatMap_map, List.flatMap_map]
  exact List.flatMap_congr fun operand _ => occurrences_besideTemplate operand operand.template

theorem occurrences_applicationTemplate (op : Operator) (operands : List Expression) :
    (applicationTemplate op operands (operands.map template)).occurrences =
      (operands.map template).flatMap Template.occurrences := by
  have hjoined : ∀ ts : List Template,
      (Template.joined (.text (" " ++ op.keyword ++ " ")) ts).occurrences =
        ts.flatMap Template.occurrences := fun ts => Template.occurrences_joined rfl ts
  unfold applicationTemplate
  split
  · rw [Template.occurrences_fault_cons, Template.occurrences_flatten]
  · simp only [Operator.composeTemplate]
    split
    · simp [hjoined, flatMap_occurrences_beside]
    · simp [hjoined, flatMap_occurrences_beside]
    · split <;> simp [hjoined]
    · simp [hjoined]
    · simp [hjoined, flatMap_occurrences_beside]

/-- **The template of an expression has the identities of the expression**, in the same order. -/
theorem occurrences_template (e : Expression) : e.template.occurrences = e.occurrences := by
  have hjoined : ∀ ts : List Template, (Template.joined (.text ", ") ts).occurrences =
      ts.flatMap Template.occurrences := fun ts => Template.occurrences_joined rfl ts
  induction e using Expression.induction with
  | literal l =>
      simp only [template, Literal.template, occurrences]
      split <;> rfl
  | reference v => rfl
  | placeholder p => rfl
  | property base key ih => simp [template, occurrences, ih]
  | application op operands ih =>
      rw [template, templates_eq_map, occurrences_applicationTemplate, occurrences,
        occurrencesAll_eq_flatMap, List.flatMap_map]
      exact List.flatMap_congr ih
  | call function arguments ih =>
      simp only [template, templates_eq_map, occurrences, occurrencesAll_eq_flatMap,
        List.cons_append, Template.occurrences_text_cons, Template.occurrences_append, hjoined,
        Template.occurrences_nil, List.append_nil, List.flatMap_map]
      exact List.flatMap_congr ih
  | list items ih =>
      simp only [template, templates_eq_map, occurrences, occurrencesAll_eq_flatMap,
        List.cons_append, Template.occurrences_text_cons, Template.occurrences_append, hjoined,
        Template.occurrences_nil, List.append_nil, List.flatMap_map]
      exact List.flatMap_congr ih
  | map entries ih =>
      simp only [template, mapTemplate, entryTemplates_eq_map, occurrences,
        occurrencesEntries_eq_flatMap, List.cons_append, Template.occurrences_text_cons,
        Template.occurrences_append, hjoined, Template.occurrences_nil, List.append_nil,
        List.flatMap_map, entryTemplate]
      exact List.flatMap_congr ih
  | identityOf v => rfl
  | labelsOf v => rfl
  | raw text => rfl

/-! ### Running the template of an expression -/

theorem renderAll_eq_each (es : List Expression) : renderAll es = BuildM.each render es := by
  induction es with
  | nil => rfl
  | cons e rest ih => rw [renderAll, ih]; rfl

/-- The text of an entry. -/
def renderEntry (entry : String × Expression) : BuildM String :=
  render entry.2 >>= fun text => pure (Identifier.escape entry.1 ++ ": " ++ text)

theorem renderEntries_eq_each (entries : List (String × Expression)) :
    renderEntries entries = BuildM.each renderEntry entries := by
  induction entries with
  | nil => rfl
  | cons entry rest ih =>
      rw [renderEntries, ih]
      simp [-bind_pure_comp, renderEntry]

theorem run_besideTemplate (operand : Expression) (t : Template) :
    (besideTemplate operand t).run = t.run >>= fun text => pure (operand.besideText text) := by
  unfold besideTemplate besideText
  split
  · simp [-bind_pure_comp, Template.run_cons, String.append_assoc]
  · simp

theorem run_templates_beside (operands : List Expression) :
    BuildM.each Template.run (List.zipWith besideTemplate operands (operands.map template)) =
      BuildM.each Template.run (operands.map template) >>= fun texts =>
        pure (List.zipWith besideText operands texts) := by
  induction operands with
  | nil => simp [-bind_pure_comp]
  | cons e rest ih => simp [-bind_pure_comp, ih, run_besideTemplate]

/-- Running the template of an application is running those of the operands, then putting their
texts together. -/
theorem run_composeTemplate (op : Operator) (operands : List Expression) :
    (op.composeTemplate (operands.map template)
        (List.zipWith besideTemplate operands (operands.map template))).run =
      BuildM.each Template.run (operands.map template) >>= fun texts =>
        pure (applicationText op operands texts) := by
  unfold Operator.composeTemplate applicationText Operator.compose
  cases op.family with
  | arithmetic =>
      simp [-bind_pure_comp, Template.run_cons, Template.run_joined, run_templates_beside,
        String.append_assoc]
  | comparison => simp [-bind_pure_comp, Template.run_joined, run_templates_beside]
  | before =>
      simp [-bind_pure_comp, Template.run_cons, Template.run_joined, String.append_assoc]
  | after =>
      simp [-bind_pure_comp, Template.run_joined, run_templates_beside, String.append_assoc]
  | connective =>
      -- a single operand is written without parentheses
      rcases operands with _ | ⟨a, _ | ⟨b, rest⟩⟩
      · simp [Template.run_cons]
      · simp
      · simp [-bind_pure_comp, Template.run_cons, Template.run_joined, String.append_assoc]

/-- **Writing an expression is running its template**, apart from log records. -/
theorem quiet_render (e : Expression) : BuildM.quiet e.render = e.template.run := by
  induction e using Expression.induction with
  | literal l =>
      cases h : l.write <;> simp [render, Literal.render, template, Literal.template, h]
  | reference v => simp [render, template, Piece.run]
  | placeholder p => simp [render, template, Piece.run]
  | property base key ih =>
      simp [-bind_pure_comp, render, template, ih, String.append_assoc]
  | application op operands ih =>
      have heach : BuildM.quiet (renderAll operands) =
          BuildM.each Template.run (operands.map template) := by
        rw [renderAll_eq_each, Template.quiet_each_eq_run ih]
      -- with a wrong number of operands nothing else is done, in either way
      simp only [render, template, applicationTemplate, templates_eq_map]
      cases op.fault? operands.length with
      | some cause => rw [Template.run_fault_cons, BuildM.quiet_fail]
      | none =>
          rw [run_composeTemplate, BuildM.quiet_bind, heach]
          rfl
  | call function arguments ih =>
      have heach : BuildM.quiet (renderAll arguments) =
          BuildM.each Template.run (arguments.map template) := by
        rw [renderAll_eq_each, Template.quiet_each_eq_run ih]
      simp [-bind_pure_comp, render, template, templates_eq_map, heach, Template.run_cons,
        Template.run_joined, String.append_assoc]
  | list items ih =>
      have heach : BuildM.quiet (renderAll items) =
          BuildM.each Template.run (items.map template) := by
        rw [renderAll_eq_each, Template.quiet_each_eq_run ih]
      simp [-bind_pure_comp, render, template, templates_eq_map, heach, Template.run_cons,
        Template.run_joined, String.append_assoc]
  | map entries ih =>
      have hentry : ∀ entry ∈ entries,
          BuildM.quiet (renderEntry entry) = (entryTemplate entry).run := by
        intro entry hmem
        simp [-bind_pure_comp, renderEntry, entryTemplate, ih entry hmem, Template.run_cons]
      have heach : BuildM.quiet (renderEntries entries) =
          BuildM.each Template.run (entries.map entryTemplate) := by
        rw [renderEntries_eq_each, Template.quiet_each_eq_run hentry]
      simp [-bind_pure_comp, render, template, mapTemplate, mapText, entryTemplates_eq_map, heach,
        Template.run_cons, Template.run_joined, String.append_assoc]
  | identityOf v =>
      simp [-bind_pure_comp, render, template, Template.run_cons, Piece.run, String.append_assoc]
  | labelsOf v =>
      simp [-bind_pure_comp, render, template, Template.run_cons, Piece.run, String.append_assoc]
  | raw text => simp [render, template]

/-! ### The templates of parts -/

theorem subset_joined {t : Template} {ts : List Template} (h : t ∈ ts) (sign : Piece) :
    t ⊆ Template.joined sign ts := by
  induction ts with
  | nil => cases h
  | cons u rest ih =>
      cases rest with
      | nil =>
          rw [List.mem_singleton.1 h, Template.joined_singleton]
          exact List.Subset.refl _
      | cons w rest =>
          rw [Template.joined_cons_cons]
          rcases List.mem_cons.1 h with rfl | h
          · exact List.subset_append_left _ _
          · exact List.subset_append_of_subset_right _ (List.subset_cons_of_subset _ (ih h))

theorem subset_besideTemplate (e : Expression) (t : Template) : t ⊆ besideTemplate e t := by
  unfold besideTemplate
  split
  · simp
  · exact List.Subset.refl _

theorem subset_between {t u : Template} (h : t ⊆ u) (first last : Piece) :
    t ⊆ first :: u ++ [last] :=
  List.subset_append_of_subset_left _ (List.subset_cons_of_subset _ h)

theorem template_subset_applicationTemplate (op : Operator) {operands : List Expression}
    {operand : Expression} (h : operand ∈ operands) :
    operand.template ⊆ applicationTemplate op operands (operands.map template) := by
  have halone := subset_joined (List.mem_map_of_mem (f := template) h)
    (.text (" " ++ op.keyword ++ " "))
  -- parentheses around an operand leave what is in it
  have hbeside : operand.template ⊆ Template.joined (.text (" " ++ op.keyword ++ " "))
      (List.zipWith besideTemplate operands (operands.map template)) := by
    rw [zipWith_beside]
    exact List.Subset.trans (subset_besideTemplate operand operand.template)
      (subset_joined (List.mem_map_of_mem (f := fun e => besideTemplate e e.template) h) _)
  unfold applicationTemplate Operator.composeTemplate
  split
  · exact List.subset_cons_of_subset _
      (List.sublist_flatten_of_mem (List.mem_map_of_mem (f := template) h)).subset
  dsimp only
  cases op.family with
  | arithmetic => exact subset_between hbeside _ _
  | comparison => exact hbeside
  | connective =>
      dsimp only
      split
      · exact halone
      · exact subset_between halone _ _
  | before => exact subset_between halone _ _
  | after => exact List.subset_append_of_subset_left _ hbeside

/-- What stands in the template of an expression stands in the template of the expression around
it. -/
theorem template_subset_of_mem_children {e child : Expression} (h : child ∈ e.children) :
    child.template ⊆ e.template := by
  cases e with
  | property base key =>
      rw [List.mem_singleton.1 h]
      exact List.subset_append_left _ _
  | application op operands =>
      rw [template, templates_eq_map]
      exact template_subset_applicationTemplate op h
  | call function arguments =>
      rw [template, templates_eq_map]
      exact subset_between (subset_joined (List.mem_map_of_mem (f := template) h) _) _ _
  | list items =>
      rw [template, templates_eq_map]
      exact subset_between (subset_joined (List.mem_map_of_mem (f := template) h) _) _ _
  | map entries =>
      obtain ⟨entry, hentry, rfl⟩ := List.mem_map.1 h
      rw [template, mapTemplate, entryTemplates_eq_map]
      refine subset_between (List.Subset.trans (List.subset_cons_self _ _)
        (subset_joined (List.mem_map_of_mem (f := entryTemplate) hentry) _)) _ _
  | literal l => cases h
  | reference v => cases h
  | placeholder p => cases h
  | identityOf v => cases h
  | labelsOf v => cases h
  | raw text => cases h

/-- **What stands in the template of a part stands in the template of the whole.** -/
theorem template_subset_of_mem_parts {e part : Expression} (h : part ∈ e.parts) :
    part.template ⊆ e.template := by
  induction e using induction_children with
  | h e ih =>
      rw [parts_eq] at h
      rcases List.mem_cons.1 h with rfl | h
      · exact List.Subset.refl _
      · obtain ⟨child, hchild, hpart⟩ := List.mem_flatMap.1 h
        exact List.Subset.trans (ih child hchild hpart) (template_subset_of_mem_children hchild)

/-- The identities of a part are identities of the whole. -/
theorem occurrences_subset_of_mem_parts {e part : Expression} (h : part ∈ e.parts) :
    part.occurrences ⊆ e.occurrences := by
  rw [← occurrences_template, ← occurrences_template]
  exact List.filterMap_subset _ (template_subset_of_mem_parts h)

end Expression

end CypherQuery
