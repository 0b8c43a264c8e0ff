/-
**The label operator is seen between labels, and nowhere else.**

The label operator is asked for in a single place, where the labels of a node are written.  Two builds
that differ in it alone take the same course: identities get the same names, the same parameters are
recorded, and if something fails, it is the same in both.  Their texts are made of the same pieces.
Only within the labels of a node that prints two or more of them, the one sign stands in the place of
the other.  A label that contains such a sign itself is written between backticks by both.

Which labels a node prints is said of the tree: those that are switched on, unless the node shows a
variable that an element before it in the same pattern shows.

Main definitions:

* `CypherQuery.Construct.printedLabels` — **the labels that the nodes of a construct print**;
* `CypherQuery.Segment` — fixed text, or labels with a sign between them;
* `CypherQuery.Template.HasLabelRuns` — the labels that a template has signs between;
* `CypherQuery.Environment.withLabelOperator`, `CypherQuery.BuildConfig.withLabelOperator`.

Main results:

* `CypherQuery.Template.run_withLabelOperator` — a run with another label operator;
* `CypherQuery.Template.HasLabelRuns.exists_segments` — the text of a template with any;
* `CypherQuery.Construct.hasLabelRuns_template` — where the signs between labels are;
* `CypherQuery.build_labelOperators` — **builds that differ in the label operator alone**.
-/

import CypherQuery.Proofs.Freezing
import CypherQuery.Proofs.WellFormed

set_option autoImplicit false

namespace CypherQuery

/-! ### Environments with another label operator -/

namespace Environment

/-- The environment with another label operator. -/
def withLabelOperator (env : Environment) (op : LabelOperator) : Environment :=
  { env with labelOperator := op }

/-- The label operator is not looked at when a variable is named. -/
theorem nameOf_withLabelOperator (v : Variable) (env : Environment) (op : LabelOperator) :
    (nameOf v (env.withLabelOperator op)).result = (nameOf v env).result ∧
      (nameOf v (env.withLabelOperator op)).environment =
        (nameOf v env).environment.withLabelOperator op := by
  have hlookup : (env.withLabelOperator op).boundVariables.lookup v =
      env.boundVariables.lookup v := rfl
  have hchoice : (env.withLabelOperator op).choose .variableName v.name v.kind.stem =
      env.choose .variableName v.name v.kind.stem := rfl
  simp only [nameOf, hlookup, hchoice]
  cases env.boundVariables.lookup v with
  | some name => exact ⟨rfl, rfl⟩
  | none =>
      cases env.choose .variableName v.name v.kind.stem with
      | error e => exact ⟨rfl, rfl⟩
      | ok choice => exact ⟨rfl, rfl⟩

/-- The label operator is not looked at when a parameter is recorded. -/
theorem recordParameter_withLabelOperator (p : Parameter) (value : Value) (env : Environment)
    (op : LabelOperator) :
    (recordParameter p value (env.withLabelOperator op)).result =
        (recordParameter p value env).result ∧
      (recordParameter p value (env.withLabelOperator op)).environment =
        (recordParameter p value env).environment.withLabelOperator op := by
  have hlookup : (env.withLabelOperator op).boundParameters.lookup p =
      env.boundParameters.lookup p := rfl
  have hchoice : (env.withLabelOperator op).choose .parameterName p.name "param" =
      env.choose .parameterName p.name "param" := rfl
  have hagain : ∀ name, (env.withLabelOperator op).recordAgain name value =
      env.recordAgain name value := fun _ => rfl
  simp only [recordParameter, hlookup, hchoice, hagain]
  cases env.boundParameters.lookup p with
  | some name => exact ⟨rfl, rfl⟩
  | none =>
      cases env.choose .parameterName p.name "param" with
      | error e => exact ⟨rfl, rfl⟩
      | ok choice => exact ⟨rfl, rfl⟩

/-- The label operator is not looked at when extra parameters are added. -/
theorem addExtras_withLabelOperator (extras : List (String × Value)) (op : LabelOperator) :
    ∀ env : Environment, (env.withLabelOperator op).addExtras extras =
      (env.addExtras extras).map fun later => later.withLabelOperator op := by
  induction extras with
  | nil => exact fun _ => rfl
  | cons entry rest ih =>
      intro env
      obtain ⟨name, value⟩ := entry
      simp only [addExtras, withLabelOperator]
      cases env.names.claim .parameterName name with
      | error e => rfl
      | ok names => exact ih { env with names, params := Dictionary.insert env.params name value }

theorem mergeExtras_withLabelOperator (extras : List (String × Value)) (op : LabelOperator)
    (env : Environment) :
    (env.withLabelOperator op).mergeExtras extras = env.mergeExtras extras := by
  rw [mergeExtras, mergeExtras, addExtras_withLabelOperator]
  cases env.addExtras extras <;> rfl

theorem lookup_withLabelOperator (o : Occurrence) (env : Environment) (op : LabelOperator) :
    o.lookup (env.withLabelOperator op) = o.lookup env := by
  cases o <;> rfl

end Environment

theorem Occurrence.name_withLabelOperator (o : Occurrence) (env : Environment)
    (op : LabelOperator) :
    (o.name (env.withLabelOperator op)).result = (o.name env).result ∧
      (o.name (env.withLabelOperator op)).environment =
        (o.name env).environment.withLabelOperator op := by
  cases o with
  | variableAt v => exact Environment.nameOf_withLabelOperator v env op
  | parameterAt p => exact Environment.recordParameter_withLabelOperator p p.value env op

/-- **A run with another label operator** fails with the same errors, and leads to the same
environment apart from the operator. -/
theorem Template.run_withLabelOperator (t : Template) (env : Environment) (op : LabelOperator) :
    (∀ e, (run t (env.withLabelOperator op)).result = .error e ↔ (run t env).result = .error e) ∧
      (run t (env.withLabelOperator op)).environment =
        (run t env).environment.withLabelOperator op := by
  refine run_image (fun env => env.withLabelOperator op) (P := fun _ => True) (Q := fun _ => True)
    (fun _ _ _ => trivial) ?_ trivial fun _ _ => trivial
  intro o _ env _
  obtain ⟨hresult, henv⟩ := o.name_withLabelOperator env op
  exact ⟨fun e => by rw [hresult], henv⟩

/-! ### The labels that are printed -/

/-- The labels that each node of a chain prints, from left to right, given the elements before. -/
def ChainElement.printedLabels (earlier : List PatternElement) :
    List ChainElement → List (List String)
  | [] => []
  | .node n :: rest =>
      (if n.element.repeats earlier then [] else n.shownLabels) ::
        printedLabels (earlier ++ [n.element]) rest
  | .relationship r :: rest => printedLabels (earlier ++ [r.element]) rest

/-- The labels that each node of a pattern prints, from left to right. -/
def Pattern.printedLabels (p : Pattern) : List (List String) :=
  ChainElement.printedLabels [] p.chain

/-- The labels that each node in the patterns of a clause prints. -/
def Clause.printedLabels : Clause → List (List String)
  | .matching c => c.patterns.flatMap Pattern.printedLabels
  | .creating patterns => patterns.flatMap Pattern.printedLabels
  | .merging pattern => pattern.printedLabels
  | _ => []

/-- **The labels that each node of a construct prints**, in the order in which they are written. -/
def Construct.printedLabels : Construct → List (List String)
  | .ofPattern p => p.printedLabels
  | .ofClause c => c.printedLabels
  | .ofQuery q => q.clauses.flatMap Clause.printedLabels
  | _ => []

/-- Those of several lists of labels that have a sign between them. -/
def labelRuns (printed : List (List String)) : List (List String) :=
  printed.filter fun labels => 1 < labels.length

theorem labelRuns_append (printed more : List (List String)) :
    labelRuns (printed ++ more) = labelRuns printed ++ labelRuns more :=
  List.filter_append _ _

theorem labelRuns_flatMap {α : Type} (printed : α → List (List String)) (as : List α) :
    labelRuns (as.flatMap printed) = as.flatMap fun a => labelRuns (printed a) := by
  induction as with
  | nil => rfl
  | cons a rest ih => rw [List.flatMap_cons, List.flatMap_cons, labelRuns_append, ih]

/-! ### Texts in segments -/

/-- **A segment of a text**: fixed text, or labels with a sign between them. -/
inductive Segment where
  /-- Fixed text. -/
  | fixed (s : String)
  /-- Labels with the sign of the label operator between them. -/
  | labels (names : List String)

namespace Segment

/-- The text of a segment. -/
def write (op : LabelOperator) : Segment → String
  | .fixed s => s
  | .labels names => String.intercalate op.separator (names.map Identifier.escape)

/-- The labels of a segment that is no fixed text. -/
def labels? : Segment → Option (List String)
  | .fixed _ => none
  | .labels names => some names

/-- **The text of segments.** -/
def text (op : LabelOperator) (segments : List Segment) : String :=
  String.join (segments.map (write op))

/-- The label operator is not seen where no labels are. -/
theorem text_eq_text {segments : List Segment} (h : segments.filterMap labels? = [])
    (op op' : LabelOperator) : text op segments = text op' segments := by
  unfold text
  refine congrArg String.join (List.map_congr_left fun segment hsegment => ?_)
  cases segment with
  | fixed s => rfl
  | labels names => cases List.filterMap_eq_nil_iff.1 h _ hsegment

end Segment

/-! ### The signs of a template -/

namespace Template

/-- The template of labels with a sign between them. -/
def ofLabels (labels : List String) : Template :=
  joined .labelSign (labels.map fun label => [.text (Identifier.escape label)])

/-- **The labels that a template has signs between**: it has no other signs. -/
inductive HasLabelRuns : Template → List (List String) → Prop
  /-- The empty template. -/
  | nil : HasLabelRuns [] []
  /-- A piece that is no sign. -/
  | piece {piece : Piece} {t : Template} {runs : List (List String)} (h : piece ≠ .labelSign)
      (ht : HasLabelRuns t runs) : HasLabelRuns (piece :: t) runs
  /-- Labels with a sign between them. -/
  | labels (labels : List String) {t : Template} {runs : List (List String)}
      (ht : HasLabelRuns t runs) : HasLabelRuns (ofLabels labels ++ t) (labels :: runs)

namespace HasLabelRuns

/-- A template without signs. -/
theorem of_not_mem {t : Template} (h : .labelSign ∉ t) : HasLabelRuns t [] := by
  induction t with
  | nil => exact .nil
  | cons piece rest ih =>
      rw [List.mem_cons, not_or] at h
      exact .piece (fun heq => h.1 heq.symm) (ih h.2)

theorem append {t u : Template} {runs more : List (List String)} (ht : HasLabelRuns t runs)
    (hu : HasLabelRuns u more) : HasLabelRuns (t ++ u) (runs ++ more) := by
  induction ht with
  | nil => exact hu
  | piece h _ ih => exact .piece h ih
  | labels labels _ ih =>
      rw [List.append_assoc]
      exact .labels labels ih

/-- Something without signs before a template. -/
theorem append_left {t u : Template} {runs : List (List String)} (ht : .labelSign ∉ t)
    (hu : HasLabelRuns u runs) : HasLabelRuns (t ++ u) runs :=
  (of_not_mem ht).append hu

/-- Something without signs behind a template. -/
theorem append_right {t u : Template} {runs : List (List String)} (ht : HasLabelRuns t runs)
    (hu : .labelSign ∉ u) : HasLabelRuns (t ++ u) runs := by
  have happend := ht.append (of_not_mem hu)
  rwa [List.append_nil] at happend

/-- Templates with a text between them. -/
theorem joined_map {α : Type} {template : α → Template} {runs : α → List (List String)}
    (h : ∀ a, HasLabelRuns (template a) (runs a)) (sep : String) (as : List α) :
    HasLabelRuns (joined (.text sep) (as.map template)) (as.flatMap runs) := by
  induction as with
  | nil => exact .nil
  | cons a rest ih =>
      cases rest with
      | nil => simpa using h a
      | cons b rest =>
          simp only [List.map_cons] at ih ⊢
          rw [joined_cons_cons, List.flatMap_cons]
          exact (h a).append (.piece Piece.noConfusion ih)

/-- **The text of a template with any label operator**: the segments are the same. -/
theorem exists_segments {t : Template} {runs : List (List String)} (h : HasLabelRuns t runs)
    (ν : Naming) :
    ∃ segments : List Segment, segments.filterMap Segment.labels? = runs ∧
      ∀ op, fill { ν with labelOperator := op } t = Segment.text op segments := by
  induction h with
  | nil => exact ⟨[], rfl, fun _ => rfl⟩
  | @piece piece t runs h _ ih =>
      obtain ⟨segments, hruns, htext⟩ := ih
      refine ⟨.fixed (piece.write ν) :: segments, hruns, fun op => ?_⟩
      have hpiece : piece.write { ν with labelOperator := op } = piece.write ν := by
        cases piece with
        | labelSign => exact absurd rfl h
        | _ => rfl
      rw [fill_cons, htext, hpiece, Segment.text, Segment.text, List.map_cons, String.join_cons]
      rfl
  | labels labels _ ih =>
      obtain ⟨segments, hruns, htext⟩ := ih
      refine ⟨.labels labels :: segments, ?_, fun op => ?_⟩
      · rw [List.filterMap_cons, hruns]
        rfl
      · have htexts : (labels.map fun label => [Piece.text (Identifier.escape label)]).map
            (fill { ν with labelOperator := op }) = labels.map Identifier.escape := by
          rw [List.map_map]
          exact List.map_congr_left fun label _ => String.append_empty
        rw [fill_append, htext, ofLabels, fill_joined, htexts, Segment.text, Segment.text,
          List.map_cons, String.join_cons]
        rfl

end HasLabelRuns

end Template

/-! ### Where the signs are -/

/-- **No expression has signs between labels.** -/
theorem Expression.labelSign_not_mem_template (x : Expression) : .labelSign ∉ x.template := by
  have hjoined := fun (as : List Expression) =>
    Template.mem_joined_map Piece.isSpecial_labelSign ", " template as
  induction x using Expression.induction with
  | literal l =>
      rw [template, Literal.template]
      split <;> simp
  | reference v => simp [template]
  | placeholder p => simp [template]
  | property base key ih => simpa [template] using ih
  | application op operands ih =>
      have hcompose := mem_composeTemplate Piece.isSpecial_labelSign op operands
      rw [template, templates_eq_map, applicationTemplate]
      split
      · simpa using ih
      · simpa [hcompose] using ih
  | call function arguments ih => simpa [template, templates_eq_map, hjoined] using ih
  | list items ih => simpa [template, templates_eq_map, hjoined] using ih
  | map entries ih =>
      rw [template, mem_mapTemplate Piece.isSpecial_labelSign]
      simpa using fun x key hx => ih (key, x) hx
  | identityOf v => simp [template]
  | labelsOf v => simp [template]
  | raw text => simp [template]

/-- What stands in expressions alone has no signs between labels. -/
theorem Expression.not_exists_labelSign_mem (expressions : List Expression) :
    ¬ ∃ x ∈ expressions, .labelSign ∈ x.template :=
  fun ⟨x, _, hx⟩ => x.labelSign_not_mem_template hx

theorem labelSign_not_mem_propertiesTemplate (first : Bool)
    (properties : List (String × Expression)) :
    .labelSign ∉ propertiesTemplate first properties := by
  rw [mem_propertiesTemplate Piece.isSpecial_labelSign]
  exact Expression.not_exists_labelSign_mem _

/-- A relationship has no signs between labels. -/
theorem RelationshipPattern.labelSign_not_mem_template (rel : RelationshipPattern)
    (annotated : Bool) : .labelSign ∉ rel.template annotated := by
  rw [mem_template Piece.isSpecial_labelSign]
  exact fun h => Expression.not_exists_labelSign_mem _ h.2

namespace NodePattern

/-- A node has signs between its labels if it has two or more. -/
theorem hasLabelRuns_labelTemplate (node : NodePattern) :
    node.labelTemplate.HasLabelRuns (labelRuns [node.shownLabels]) := by
  unfold labelTemplate
  match node.shownLabels with
  | [] => exact .nil
  | [label] => exact .piece Piece.noConfusion (.piece Piece.noConfusion .nil)
  | label :: other :: rest =>
      have hlabels := Template.HasLabelRuns.labels (label :: other :: rest) .nil
      rw [List.append_nil] at hlabels
      exact .piece Piece.noConfusion hlabels

theorem hasLabelRuns_template (node : NodePattern) (annotated : Bool) :
    (node.template annotated).HasLabelRuns
      (labelRuns [if annotated then node.shownLabels else []]) := by
  have hname :=
    not_mem_nameTemplate Piece.isSpecial_labelSign node.identity node.showsVariable
  refine .append_right (.piece Piece.noConfusion (.append_left hname ?_)) (by simp)
  cases annotated with
  | false => exact .nil
  | true =>
      exact node.hasLabelRuns_labelTemplate.append_right
        (labelSign_not_mem_propertiesTemplate _ _)

end NodePattern

/-- The elements before an element and the variables that they show are kept in step. -/
theorem Hop.hasLabelRuns_templateAll (hops : List Hop) :
    ∀ (shownVariables : List Variable) (earlier : List PatternElement),
      (∀ v, shownVariables.contains v = PatternElement.showsAny earlier v) →
      (Hop.templateAll shownVariables hops).HasLabelRuns
        (labelRuns (ChainElement.printedLabels earlier (Hop.chain hops))) := by
  induction hops with
  | nil => exact fun _ _ _ => .nil
  | cons hop rest ih =>
      intro shownVariables earlier h
      have hrel := contains_shownBefore h hop.relationship.element
      have hnode := contains_shownBefore hrel hop.node.element
      have hannotated : hop.node.annotatedAfter (hop.relationship.extend shownVariables) =
          !hop.node.element.repeats (earlier ++ [hop.relationship.element]) :=
        isAnnotated_eq_not_repeats hrel hop.node.element
      have hlabels := hop.node.hasLabelRuns_template
        (hop.node.annotatedAfter (hop.relationship.extend shownVariables))
      rw [templateAll]
      refine .append_left (hop.relationship.labelSign_not_mem_template _) ?_
      have hchain : ChainElement.printedLabels earlier (Hop.chain (hop :: rest)) =
          [if hop.node.annotatedAfter (hop.relationship.extend shownVariables) then
              hop.node.shownLabels else []] ++
            ChainElement.printedLabels
              (earlier ++ [hop.relationship.element] ++ [hop.node.element]) (Hop.chain rest) := by
        rw [hannotated]
        cases hrepeats : hop.node.element.repeats (earlier ++ [hop.relationship.element]) <;>
          simp [Hop.chain, ChainElement.printedLabels, hrepeats]
      rw [hchain, labelRuns_append]
      exact hlabels.append (ih _ _ hnode)

theorem Pattern.hasLabelRuns_template (p : Pattern) :
    p.template.HasLabelRuns (labelRuns p.printedLabels) := by
  have hnone : ∀ v, ([] : List Variable).contains v = PatternElement.showsAny [] v :=
    fun _ => rfl
  have hstart := contains_shownBefore hnone p.start.element
  -- nothing stands before the first node, so it is annotated
  have hannotated : p.start.element.repeats [] = false := Bool.and_false _
  have hchain : p.printedLabels = [if p.start.annotatedAfter [] then p.start.shownLabels else []] ++
      ChainElement.printedLabels [p.start.element] (Hop.chain p.hops) := by
    rw [show p.start.annotatedAfter [] = !p.start.element.repeats [] from
      isAnnotated_eq_not_repeats hnone p.start.element, hannotated]
    simp [printedLabels, chain, ChainElement.printedLabels, hannotated]
  rw [hchain, labelRuns_append, template]
  exact (p.start.hasLabelRuns_template _).append (Hop.hasLabelRuns_templateAll p.hops _ _ hstart)

theorem labelSign_not_mem_partTemplate (keyword : String) (part : Option Expression) :
    .labelSign ∉ partTemplate keyword part := by
  rw [mem_partTemplate Piece.isSpecial_labelSign]
  exact Expression.not_exists_labelSign_mem _

theorem labelSign_not_mem_columnsTemplate (columns : List Column) :
    .labelSign ∉ columnsTemplate columns := by
  rw [mem_columnsTemplate Piece.isSpecial_labelSign]
  exact Expression.not_exists_labelSign_mem _

theorem labelSign_not_mem_sortItemsTemplate (items : List SortItem) :
    .labelSign ∉ sortItemsTemplate items := by
  rw [mem_sortItemsTemplate Piece.isSpecial_labelSign]
  exact Expression.not_exists_labelSign_mem _

theorem hasLabelRuns_patternsTemplate (keyword : String) (patterns : List Pattern) :
    (patternsTemplate keyword patterns).HasLabelRuns
      (labelRuns (patterns.flatMap Pattern.printedLabels)) := by
  unfold patternsTemplate
  split
  next hempty =>
      rw [List.isEmpty_iff.1 hempty]
      exact .piece Piece.noConfusion .nil
  next =>
      rw [labelRuns_flatMap]
      exact .piece Piece.noConfusion (.joined_map Pattern.hasLabelRuns_template ", " patterns)

/-- **The signs of a clause** are those of its patterns. -/
theorem Clause.hasLabelRuns_template (c : Clause) :
    c.template.HasLabelRuns (labelRuns c.printedLabels) := by
  have hpart := labelSign_not_mem_partTemplate
  have hcolumns := labelSign_not_mem_columnsTemplate
  cases c with
  | matching c => exact (hasLabelRuns_patternsTemplate c.keyword c.patterns).append_right (hpart _ _)
  | creating patterns => exact hasLabelRuns_patternsTemplate "CREATE" patterns
  | merging pattern => exact .piece Piece.noConfusion pattern.hasLabelRuns_template
  | handingOn c => exact .of_not_mem (by simp [template, hcolumns, hpart])
  | unwinding items name =>
      exact .of_not_mem (by simp [template, Expression.labelSign_not_mem_template])
  | setting assignments =>
      have hassignment : ∀ a : Assignment, .labelSign ∉ a.template := fun a => by
        rw [a.mem_template Piece.isSpecial_labelSign]
        exact Expression.not_exists_labelSign_mem _
      refine .of_not_mem ?_
      rw [template, assignmentsTemplate]
      split <;> simp [Template.mem_joined_map Piece.isSpecial_labelSign, hassignment]
  | deleting detached items =>
      refine .of_not_mem ?_
      rw [template, deletionsTemplate]
      split <;> simp [Template.mem_joined_map Piece.isSpecial_labelSign,
        Expression.labelSign_not_mem_template]
  | returning c =>
      exact .of_not_mem (by
        simp [template, hcolumns, labelSign_not_mem_sortItemsTemplate, hpart])

theorem Query.hasLabelRuns_template (q : Query) :
    q.template.HasLabelRuns (labelRuns (q.clauses.flatMap Clause.printedLabels)) := by
  unfold template
  split
  next hempty =>
      rw [List.isEmpty_iff.1 hempty]
      exact .piece Piece.noConfusion .nil
  next =>
      rw [labelRuns_flatMap]
      exact .joined_map Clause.hasLabelRuns_template "\n" q.clauses

/-- **The signs of a construct** are between the labels that its nodes print. -/
theorem Construct.hasLabelRuns_template (c : Construct) :
    c.template.HasLabelRuns (labelRuns c.printedLabels) := by
  cases c with
  | ofExpression e => exact .of_not_mem e.labelSign_not_mem_template
  | ofVariable v => exact .piece Piece.noConfusion .nil
  | ofParameter p => exact .piece Piece.noConfusion .nil
  | ofPattern p => exact p.hasLabelRuns_template
  | ofOpenPattern p => exact .piece Piece.noConfusion .nil
  | ofColumn c =>
      refine .of_not_mem ?_
      rw [template, c.mem_template Piece.isSpecial_labelSign]
      exact c.expression.labelSign_not_mem_template
  | ofClause c => exact c.hasLabelRuns_template
  | ofQuery q => exact q.hasLabelRuns_template

/-! ### Builds -/

/-- The configuration with another label operator. -/
def BuildConfig.withLabelOperator (config : BuildConfig) (op : LabelOperator) : BuildConfig :=
  { config with labelOperator := op }

namespace Construct

/-- Writing a construct with another label operator. -/
theorem render_withLabelOperator (c : Construct) (config : BuildConfig) (op : LabelOperator) :
    (∀ e, (c.render (config.withLabelOperator op).environment).result = .error e ↔
        (c.render config.environment).result = .error e) ∧
      (c.render (config.withLabelOperator op).environment).environment =
        (c.render config.environment).environment.withLabelOperator op := by
  simp only [result_render, environment_render]
  exact c.template.run_withLabelOperator config.environment op

/-- The text of a construct with any label operator: the segments are the same. -/
theorem exists_segments_of_render {c : Construct} {config : BuildConfig} {text : String}
    (h : (c.render config.environment).result = .ok text) :
    ∃ segments : List Segment, segments.filterMap Segment.labels? = labelRuns c.printedLabels ∧
      ∀ op, (c.render (config.withLabelOperator op).environment).result =
        .ok (Segment.text op segments) := by
  obtain ⟨segments, hruns, htext⟩ :=
    c.hasLabelRuns_template.exists_segments (c.render config.environment).environment.naming
  refine ⟨segments, hruns, fun op => ?_⟩
  obtain ⟨herror, henv⟩ := c.render_withLabelOperator config op
  cases hresult : (c.render (config.withLabelOperator op).environment).result with
  | error e =>
      rw [herror, h] at hresult
      cases hresult
  | ok text' =>
      rw [eq_fill_of_render hresult, henv, ← htext]
      rfl

/-- A build that fails does so with any label operator. -/
theorem error_build_withLabelOperator {c : Construct} {config : BuildConfig} {e : BuildError}
    (h : (c.build config).result = .error e) (op : LabelOperator) :
    (c.build (config.withLabelOperator op)).result = .error e := by
  obtain ⟨herror, henv⟩ := c.render_withLabelOperator config op
  cases hvalid : config.isValid with
  | false =>
      have hvalid' : (config.withLabelOperator op).isValid = false := hvalid
      rw [c.result_build_of_not_isValid hvalid] at h
      rw [c.result_build_of_not_isValid hvalid', h]
  | true =>
      have hvalid' : (config.withLabelOperator op).isValid = true := hvalid
      rw [c.result_build hvalid] at h
      rw [c.result_build hvalid', henv, Environment.mergeExtras_withLabelOperator]
      cases hwritten : (c.render config.environment).result with
      | error e' =>
          rw [hwritten] at h
          cases h
          rw [(herror e).2 hwritten]
      | ok text =>
          obtain ⟨segments, -, htext⟩ := exists_segments_of_render hwritten
          rw [hwritten] at h
          rw [htext op]
          exact map_eq_error_iff.2 (map_eq_error_iff.1 h)

/-- A build that succeeds does so with any label operator: the parameters and the segments of the
text are the same. -/
theorem exists_segments_of_build {c : Construct} {config : BuildConfig} {result : BuildResult}
    (h : (c.build config).result = .ok result) :
    ∃ segments : List Segment, segments.filterMap Segment.labels? = labelRuns c.printedLabels ∧
      ∀ op, (c.build (config.withLabelOperator op)).result =
        .ok ⟨Segment.text op segments, result.params⟩ := by
  obtain ⟨hwritten, hmerge⟩ := parts_of_build h
  obtain ⟨segments, hruns, htext⟩ := exists_segments_of_render hwritten
  refine ⟨segments, hruns, fun op => ?_⟩
  have hvalid : config.isValid = true := by
    rw [← Bool.not_eq_false]
    intro hinvalid
    rw [c.result_build_of_not_isValid hinvalid] at h
    cases h
  have hvalid' : (config.withLabelOperator op).isValid = true := hvalid
  obtain ⟨-, henv⟩ := c.render_withLabelOperator config op
  have hmerge' : (c.render (config.withLabelOperator op).environment).environment.mergeExtras
      (config.withLabelOperator op).extraParams = .ok result.params := by
    rw [henv, Environment.mergeExtras_withLabelOperator]
    exact hmerge
  rw [c.result_build hvalid', htext op, hmerge']
  rfl

end Construct

/-- **Builds that differ in the label operator alone.**  Every identity has the same name in all of
them.  Either all fail with the same error; or all succeed with the same parameters, and the texts
are made of the same segments, which have signs between those labels that a node prints together with
others.  If no node prints more than one label, the texts are the same. -/
theorem build_labelOperators (c : Construct) (config : BuildConfig) :
    (∀ (op : LabelOperator) (o : Occurrence),
      o.lookup (c.render (config.withLabelOperator op).environment).environment =
        o.lookup (c.render config.environment).environment) ∧
    ((∃ e, ∀ op, (c.build (config.withLabelOperator op)).result = .error e) ∨
      ∃ params segments, segments.filterMap Segment.labels? = labelRuns c.printedLabels ∧
        ∀ op, (c.build (config.withLabelOperator op)).result =
          .ok ⟨Segment.text op segments, params⟩) ∧
    ((∀ labels ∈ c.printedLabels, labels.length ≤ 1) → ∀ op,
      (c.build (config.withLabelOperator op)).result = (c.build config).result) := by
  refine ⟨fun op o => ?_, ?_, fun hsingle op => ?_⟩
  · rw [(c.render_withLabelOperator config op).2, Environment.lookup_withLabelOperator]
  · cases hresult : (c.build config).result with
    | error e => exact .inl ⟨e, Construct.error_build_withLabelOperator hresult⟩
    | ok result =>
        obtain ⟨segments, hruns, htext⟩ := Construct.exists_segments_of_build hresult
        exact .inr ⟨result.params, segments, hruns, htext⟩
  · have hnone : labelRuns c.printedLabels = [] :=
      List.filter_eq_nil_iff.2 fun labels hlabels => by simpa using hsingle labels hlabels
    cases hresult : (c.build config).result with
    | error e => exact Construct.error_build_withLabelOperator hresult op
    | ok result =>
        obtain ⟨segments, hruns, htext⟩ := Construct.exists_segments_of_build hresult
        rw [hnone] at hruns
        -- the given operator is one of them
        have hgiven : (c.build config).result = _ := htext config.labelOperator
        rw [htext op, ← hresult, hgiven, Segment.text_eq_text hruns op config.labelOperator]

/-- A node with two labels, of which one has a sign in it, that comes back with other labels. -/
def labelledLoop : Construct :=
  let node : Variable := ⟨0, .node, none⟩
  .ofPattern ⟨⟨node, ["A&B", "C"], [], true, true⟩,
    [⟨.ofVariable ⟨1, .relationship, none⟩, ⟨node, ["D", "E"], [], true, true⟩⟩]⟩

/-- The sign between the two labels is a colon or an ampersand, and nothing else differs. -/
theorem build_labelledLoop :
    let config : BuildConfig := ⟨"", .colon, []⟩
    ∃ params segments, segments.filterMap Segment.labels? = [["A&B", "C"]] ∧
      (∀ op, (labelledLoop.build (config.withLabelOperator op)).result =
        .ok ⟨Segment.text op segments, params⟩) ∧
      Segment.text .colon segments = "(this0:`A&B`:C)-[this1]->(this0)" ∧
      Segment.text .ampersand segments = "(this0:`A&B`&C)-[this1]->(this0)" := by
  intro config
  have hcolon : (labelledLoop.build (config.withLabelOperator .colon)).result =
      .ok ⟨"(this0:`A&B`:C)-[this1]->(this0)", []⟩ := by decide
  have hampersand : (labelledLoop.build (config.withLabelOperator .ampersand)).result =
      .ok ⟨"(this0:`A&B`&C)-[this1]->(this0)", []⟩ := by decide
  have hruns : labelRuns labelledLoop.printedLabels = [["A&B", "C"]] := by decide
  obtain ⟨-, ⟨e, herror⟩ | ⟨params, segments, hsegments, htext⟩, -⟩ :=
    build_labelOperators labelledLoop config
  · cases (herror .colon).symm.trans hcolon
  · refine ⟨params, segments, hsegments.trans hruns, htext, ?_, ?_⟩
    · exact congrArg BuildResult.cypher (Except.ok.inj ((htext .colon).symm.trans hcolon))
    · exact congrArg BuildResult.cypher (Except.ok.inj ((htext .ampersand).symm.trans hampersand))

end CypherQuery
