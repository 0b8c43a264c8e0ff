/-
**When a document is built.**

In a document without named variables nothing that stands before the return items has an explicit
name.  So the variables of the elements are numbered, as many as there are different ones, and
nothing can go wrong until the names of the return items are claimed.  One of them is refused if it
is the name of an earlier one or of the variable of an element.  There are no other errors.

Main definitions:

* `CypherQuery.QueryDocument.generatedNames` — the names of the variables of the elements.

Main results:

* `CypherQuery.QueryDocument.IsTranslation.names_leading` — **the names that are taken** when the
  first return item is written;
* `CypherQuery.QueryDocument.IsTranslation.error_render_iff` — the names that are refused;
* `CypherQuery.build_document` — **when a document is built**, and with which error it is not.
-/

import CypherQuery.Proofs.Document.Translation
import CypherQuery.Proofs.Numbering

set_option autoImplicit false

namespace CypherQuery

namespace QueryDocument

/-- **The names of the variables of the elements.** -/
def generatedNames (doc : QueryDocument) (namePrefix : String) : List String :=
  (List.range doc.variableCount).map (Names.generated namePrefix "this")

variable {doc : QueryDocument}

/-! ### What stands before the return items -/

theorem Introduces.isAnonymous (hnamed : doc.namedVariables = false) {o : Occurrence}
    (h : doc.Introduces o) : o.IsAnonymous "this" := by
  rcases h with ⟨v, hv, rfl⟩ | ⟨p, hp, rfl⟩
  · obtain ⟨index, element, -, rfl⟩ := exists_introduced_of_mem hv
    refine ⟨?_, fun _ => ?_⟩
    · rw [Occurrence.explicitName, introduced, hnamed]
      rfl
    · cases element <;> rfl
  · refine ⟨hp, fun hclass => ?_⟩
    cases hclass

namespace IsTranslation

variable {p : Pattern} {conditions : List Expression} {columns : List Column}
  (h : doc.IsTranslation p conditions columns) (hnamed : doc.namedVariables = false)

include h hnamed

theorem exists_nameAll_leading (namePrefix : String) (op : LabelOperator) :
    ∃ names, (Occurrence.nameAll (doc.leadingOccurrences p conditions)
      (.start namePrefix op)).result = .ok names :=
  Occurrence.exists_nameAll_anonymous
    (fun o ho => (h.introduces_leading o ho).isAnonymous hnamed) namePrefix op

/-- **The names that are taken** when the first return item is written. -/
theorem names_leading (namePrefix : String) (op : LabelOperator) :
    (Occurrence.nameAll (doc.leadingOccurrences p conditions)
      (.start namePrefix op)).environment.boundVariables.map Prod.snd =
      doc.generatedNames namePrefix := by
  have hvs : ∀ v, v ∈ doc.elementVariables ↔
      .variableAt v ∈ doc.leadingOccurrences p conditions := by
    intro v
    refine ⟨h.variableAt_mem_leading, fun hv => ?_⟩
    obtain ⟨w, hw, heq⟩ | ⟨q, -, heq⟩ := h.introduces_leading _ hv
    · cases heq
      exact hw
    · cases heq
  rw [generatedNames, ← length_dedup_elementVariables]
  exact Occurrence.names_nameAll_anonymous
    (fun o ho => (h.introduces_leading o ho).isAnonymous hnamed) hvs namePrefix op

/-! ### The return items -/

omit h hnamed in
/-- Of columns whose expressions have no explicit names, only the names given to them count. -/
theorem filter_columns
    (hanonymous : ∀ c ∈ columns, ∀ o ∈ c.expression.occurrences, o.explicitName = none)
    (hexplicit : ∀ v ∈ columns.filterMap Column.alias?, v.name.isSome = true) :
    (columns.flatMap Column.occurrences).filter (fun o => o.explicitName.isSome) =
      (columns.filterMap Column.alias?).map .variableAt := by
  induction columns with
  | nil => rfl
  | cons c rest ih =>
      rw [List.forall_mem_cons] at hanonymous
      have hexpression : c.expression.occurrences.filter (fun o => o.explicitName.isSome) = [] :=
        List.filter_eq_nil_iff.2 fun o ho => by simp [hanonymous.1 o ho]
      rw [List.flatMap_cons, List.filter_append, Column.occurrences_eq, List.filter_append,
        hexpression, List.nil_append]
      cases halias : c.alias? with
      | none =>
          rw [List.filterMap_cons_none halias] at hexplicit ⊢
          exact ih hanonymous.2 hexplicit
      | some name =>
          rw [List.filterMap_cons_some halias] at hexplicit ⊢
          rw [List.forall_mem_cons] at hexplicit
          have hname : [Occurrence.variableAt name].filter (fun o => o.explicitName.isSome) =
              [.variableAt name] := by
            simp [Occurrence.explicitName, hexplicit.1]
          rw [ih hanonymous.2 hexplicit.2, Option.toList_some, List.map_singleton, hname]
          rfl

/-- When the first return item is written, the variables to which it refers have names. -/
theorem isSome_lookup_columns (namePrefix : String) (op : LabelOperator) :
    ∀ o ∈ columns.flatMap Column.occurrences, o.explicitName.isSome = false →
      (o.lookup (Occurrence.nameAll (doc.leadingOccurrences p conditions)
        (.start namePrefix op)).environment).isSome = true := by
  obtain ⟨names, hnames⟩ := h.exists_nameAll_leading hnamed namePrefix op
  intro o ho hanonymous
  obtain ⟨c, hc, ho⟩ := List.mem_flatMap.1 ho
  rw [Column.occurrences_eq, List.mem_append] at ho
  rcases ho with hexpression | halias
  · obtain ⟨item, v, hv, hreturned⟩ := h.returned_columns c hc
    rw [hreturned, occurrences_returned, List.mem_singleton] at hexpression
    obtain ⟨name, hname⟩ := Occurrence.exists_lookup_of_nameAll hnames _
      (h.variableAt_mem_leading hv)
    rw [hexpression, hname]
    rfl
  · -- the name of a return item is explicit
    obtain ⟨v, hv, rfl⟩ := List.mem_map.1 halias
    have hmem : v ∈ doc.aliasVariables := by
      rw [← h.aliases_eq, List.mem_filterMap]
      exact ⟨c, hc, Option.mem_toList.1 hv⟩
    rw [Occurrence.explicitName, (of_mem_aliasVariables hmem).2] at hanonymous
    cases hanonymous

omit hnamed in
/-- The variables of the names of return items are new by then. -/
theorem lookup_aliasVariables (namePrefix : String) (op : LabelOperator) :
    ∀ v ∈ doc.aliasVariables, (Occurrence.nameAll (doc.leadingOccurrences p conditions)
      (.start namePrefix op)).environment.boundVariables.lookup v = none := by
  obtain ⟨horigins, -⟩ := Occurrence.hasOrigins_nameAll (Environment.isOfBuild_start namePrefix op)
    (Environment.hasOrigins_start _ namePrefix op)
    (List.Subset.refl (doc.leadingOccurrences p conditions))
  intro v hv
  refine Option.eq_none_iff_forall_ne_some.2 fun name hname => ?_
  have hmem := (horigins (.variableAt v) name hname).1
  obtain ⟨w, hw, heq⟩ | ⟨q, -, heq⟩ := h.introduces_leading _ hmem
  · -- the numbers of the elements are smaller
    cases heq
    obtain ⟨index, element, hindex, rfl⟩ := exists_introduced_of_mem hw
    exact absurd (of_mem_aliasVariables hv).1 (Nat.not_le.2 hindex)
  · cases heq

/-- **The names that are refused** are the first ones that are not new. -/
theorem error_render_iff (namePrefix : String) (op : LabelOperator) (e : BuildError) :
    ((Construct.ofQuery (doc.assemble p conditions columns)).render
        (.start namePrefix op)).result = .error e ↔
      ∃ name, firstRepeated (doc.generatedNames namePrefix) doc.aliases = some name ∧
        e = .nameCollision name .variableName := by
  have hfaultless := (Construct.isWellFormed_iff _).1 h.isWellFormed_assemble
  have hanonymous : ∀ c ∈ columns, ∀ o ∈ c.expression.occurrences, o.explicitName = none := by
    intro c hc
    obtain ⟨item, v, hv, hreturned⟩ := h.returned_columns c hc
    rw [hreturned]
    intro o ho
    exact (((supports_returned item hv).identities o ho).isAnonymous hnamed).1
  have hexplicit : ∀ v ∈ columns.filterMap Column.alias?, v.name.isSome = true := by
    rw [h.aliases_eq]
    exact fun v hv => (of_mem_aliasVariables hv).2
  obtain ⟨names, hnames⟩ := h.exists_nameAll_leading hnamed namePrefix op
  have hlookup := h.isSome_lookup_columns hnamed namePrefix op
  have hnew := h.lookup_aliasVariables namePrefix op
  have hbuild : (Occurrence.nameAll (doc.leadingOccurrences p conditions)
      (.start namePrefix op)).environment.IsOfBuild :=
    Occurrence.keeps_nameAll (fun o _ env henv => henv.name o)
      (Environment.isOfBuild_start namePrefix op)
  rw [Construct.result_render, Template.error_iff hfaultless, Construct.occurrences_template,
    occurrences_assemble, Occurrence.error_nameAll_append_iff hnames,
    Occurrence.error_nameAll_filter_iff hbuild hlookup, filter_columns hanonymous hexplicit,
    h.aliases_eq, Occurrence.error_nameAll_explicit_iff hbuild nodup_aliasVariables
      fun v hv => ⟨(of_mem_aliasVariables hv).2, hnew v hv⟩,
    h.names_leading hnamed, filterMap_name_aliasVariables]

end IsTranslation

end QueryDocument

/-- **When a document is built**, if its variables are not named and there are no extra parameters:
when the names of its return items are different and none of them is generated for an element.
Otherwise the first name is refused that is generated or stands earlier among them. -/
theorem build_document {doc : QueryDocument} {q : Query} {config : BuildConfig}
    (hnamed : doc.namedVariables = false) (hq : doc.toQuery.result = .ok q)
    (hvalid : config.isValid = true) (hextras : config.extraParams = []) :
    let generated := doc.generatedNames config.namePrefix
    ((∃ result, ((Construct.ofQuery q).build config).result = .ok result) ↔
      doc.aliases.Nodup ∧ ∀ name ∈ doc.aliases, name ∉ generated) ∧
    ∀ e, ((Construct.ofQuery q).build config).result = .error e ↔
      ∃ earlier refused later, doc.aliases = earlier ++ refused :: later ∧
        (earlier.Nodup ∧ ∀ name ∈ earlier, name ∉ generated) ∧
        (refused ∈ generated ∨ refused ∈ earlier) ∧
        e = .nameCollision refused .variableName := by
  intro generated
  obtain ⟨p, conditions, columns, rfl, h⟩ := QueryDocument.exists_isTranslation hq
  have hrender := h.error_render_iff hnamed config.namePrefix config.labelOperator
  have hreports : Reports ((firstRepeated generated doc.aliases).map
      (BuildError.nameCollision · .variableName)).toList
      ((Construct.ofQuery (doc.assemble p conditions columns)).build config).result := by
    intro e
    rw [Construct.error_build_iff _ hvalid hextras, Option.head?_toList, Option.map_eq_some_iff]
    exact (hrender e).trans (exists_congr fun name => and_congr_right fun _ => eq_comm)
  constructor
  · rw [hreports.exists_ok_iff, Option.toList_eq_nil_iff, Option.map_eq_none_iff,
      firstRepeated_eq_none_iff]
  · intro e
    rw [Construct.error_build_iff _ hvalid hextras]
    refine (hrender e).trans ?_
    constructor
    · rintro ⟨refused, hrefused, he⟩
      obtain ⟨earlier, later, haliases, hnew, hknown⟩ := firstRepeated_eq_some_iff.1 hrefused
      exact ⟨earlier, refused, later, haliases, firstRepeated_eq_none_iff.1 hnew, hknown, he⟩
    · rintro ⟨earlier, refused, later, haliases, hnew, hknown, he⟩
      exact ⟨refused, firstRepeated_eq_some_iff.2
        ⟨earlier, later, haliases, firstRepeated_eq_none_iff.2 hnew, hknown⟩, he⟩

/-- A path that ends where it starts, with a node and two relationships of their own in between, and
the given names for what is returned. -/
def loopDocument (names : List String) : QueryDocument where
  optional := false
  namedVariables := false
  elements := [.node ⟨some "a", [], []⟩, .relationship ⟨some "r", none, .right, none, []⟩,
    .node ⟨none, [], [("age", .integer 7)]⟩, .relationship ⟨none, none, .left, none, []⟩,
    .node ⟨some "a", [], []⟩]
  filters := [⟨"r", "since", .integer 9⟩]
  returns := names.map fun name => ⟨"a", none, some name⟩

/-- There are four variables, so that the fifth generated name is free and the fourth is not. -/
theorem build_loopDocument :
    let config : BuildConfig := ⟨"q", .colon, []⟩
    ∃ sound refused, (loopDocument ["qthis4"]).toQuery.result = .ok sound ∧
      (loopDocument ["qthis4", "qthis3", "qthis4"]).toQuery.result = .ok refused ∧
      (∃ result, ((Construct.ofQuery sound).build config).result = .ok result) ∧
      ((Construct.ofQuery refused).build config).result =
        .error (.nameCollision "qthis3" .variableName) := by
  intro config
  have hvalid : config.isValid = true := by decide
  have hsound : (loopDocument ["qthis4"]).toQuery.result = .ok _ := rfl
  have hrefused : (loopDocument ["qthis4", "qthis3", "qthis4"]).toQuery.result = .ok _ := rfl
  refine ⟨_, _, hsound, hrefused, ?_, ?_⟩
  · exact (build_document rfl hsound hvalid rfl).1.2 (by decide)
  · exact ((build_document rfl hrefused hvalid rfl).2 _).2
      ⟨["qthis4"], "qthis3", ["qthis4"], rfl, by decide, by decide, rfl⟩

end CypherQuery
