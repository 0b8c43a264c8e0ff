/-
**What a query document is translated to.**

The translation keeps the elements of a document in order and writes every value as a parameter
without a name.  What stands before the return items are the variables of the elements and such
parameters; the return items refer to the variables of elements, and their names have variables of
their own.  All of it can be written.

Main definitions:

* `CypherQuery.QueryDocument.Introduces`, `CypherQuery.QueryDocument.Supports` — what stands before
  the return items, and in which expressions nothing else does;
* `CypherQuery.QueryDocument.IsTranslation` — the parts of a query that is a translation.

Main results:

* `CypherQuery.QueryDocument.becomes_of_pattern`, `CypherQuery.QueryDocument.elements_of_pattern` —
  the elements of the pattern;
* `CypherQuery.QueryDocument.exists_isTranslation` — **what an accepted document is translated to**;
* `CypherQuery.QueryDocument.IsTranslation.introduces_leading` — what is written before the return
  items;
* `CypherQuery.QueryDocument.IsTranslation.isWellFormed_assemble` — **translations can be written**.
-/

import CypherQuery.Proofs.Document.Variables
import CypherQuery.Proofs.WellFormed
import Mathlib.Data.List.Forall2

set_option autoImplicit false

namespace CypherQuery

/-! ### Computations that succeed -/

theorem Logged.ok_of_bind {ε α β : Type} {x : Logged ε α} {f : α → Logged ε β} {b : β}
    (h : (x >>= f).result = .ok b) : ∃ a, x.result = .ok a ∧ (f a).result = .ok b := by
  rw [result_bind] at h
  cases hx : x.result with
  | error e =>
      rw [hx] at h
      cases h
  | ok a =>
      rw [hx] at h
      exact ⟨a, rfl, h⟩

/-- Computations over a list that all succeed. -/
theorem forall₂_of_mapM {ε α β : Type} {step : α → Except ε β} {as : List α} : ∀ {bs : List β},
    as.mapM step = .ok bs → List.Forall₂ (fun a b => step a = .ok b) as bs := by
  induction as with
  | nil =>
      intro bs h
      cases h
      exact .nil
  | cons a rest ih =>
      intro bs h
      rw [List.mapM_cons] at h
      cases hfirst : step a with
      | error e =>
          rw [hfirst] at h
          cases h
      | ok b =>
          cases hrest : rest.mapM step with
          | error e =>
              rw [hfirst, hrest] at h
              cases h
          | ok bs' =>
              rw [hfirst, hrest] at h
              cases h
              exact .cons hfirst (ih hrest)

theorem exists_mem_of_forall₂ {α β : Type} {R : α → β → Prop} {as : List α} {bs : List β}
    (h : List.Forall₂ R as bs) : ∀ b ∈ bs, ∃ a ∈ as, R a b := by
  induction h with
  | nil => exact fun _ hb => absurd hb List.not_mem_nil
  | cons hfirst _ ih =>
      intro b hb
      rcases List.mem_cons.1 hb with rfl | hb
      · exact ⟨_, List.mem_cons_self, hfirst⟩
      · obtain ⟨a, ha, hab⟩ := ih b hb
        exact ⟨a, List.mem_cons_of_mem _ ha, hab⟩

/-- What a length stands for if it stands for anything: a text can only be a star. -/
def DocumentLength.span : DocumentLength → PathLength
  | .exactly hops => .exactly hops
  | .between least greatest => .between least greatest
  | .text _ => .any

theorem DocumentLength.span_of_toPathLength (length : DocumentLength) {path : PathLength}
    (h : length.toPathLength = .ok path) : length.span = path := by
  cases length with
  | exactly hops => cases h; rfl
  | between least greatest => cases h; rfl
  | text s =>
      rw [toPathLength] at h
      split at h
      · cases h; rfl
      · cases h

namespace QueryDocument

variable {doc : QueryDocument}

/-! ### The elements of the pattern -/

/-- An element of a document as an element of the pattern. -/
def patternElement (doc : QueryDocument) (entry : DocumentElement × Nat) : PatternElement :=
  ⟨doc.variableAt entry.2 entry.1, true,
    propertyParameters (doc.firstParameter entry.2) entry.1.properties⟩

/-- A relationship that can be put together has nothing but the length added in the end. -/
theorem relationshipPattern_of_ok {index : Nat} {r : DocumentRelationship}
    {rel : RelationshipPattern} (h : (doc.relationshipPattern index r).result = .ok rel) :
    rel = { r.base (doc.variableAt index (.relationship r)) (doc.firstParameter index) with
      length := r.length.map DocumentLength.span } := by
  rw [relationshipPattern] at h
  generalize doc.variableAt index (.relationship r) = v at h ⊢
  have hbase : (r.base v (doc.firstParameter index)).length = none := by
    unfold DocumentRelationship.base
    cases r.relationType <;> rfl
  unfold DocumentRelationship.pattern at h
  cases hlength : r.length with
  | none =>
      rw [hlength] at h
      cases h
      rw [Option.map_none, ← hbase]
  | some length =>
      simp only [hlength] at h
      cases hpath : length.toPathLength with
      | error e =>
          rw [hpath] at h
          cases h
      | ok path =>
          simp only [hpath, Logged.mapError, result_withLength] at h
          cases hinversion : path.inversion? with
          | some hops =>
              rw [hinversion] at h
              cases h
          | none =>
              rw [hinversion] at h
              cases h
              rw [Option.map_some, length.span_of_toPathLength hpath]

/-- Whether an element of the document becomes an element of the pattern. -/
def Becomes (doc : QueryDocument) (entry : DocumentElement × Nat) (x : ChainElement) : Prop :=
  match entry.1, x with
  | .node n, .node node => node = doc.nodePattern entry.2 n
  | .relationship r, .relationship rel => (doc.relationshipPattern entry.2 r).result = .ok rel
  | _, _ => False

theorem Becomes.element_eq {entry : DocumentElement × Nat} {x : ChainElement}
    (h : doc.Becomes entry x) : x.element = doc.patternElement entry := by
  obtain ⟨element, index⟩ := entry
  cases element with
  | node n =>
      cases x with
      | relationship rel => cases h
      | node node =>
          cases h
          rfl
  | relationship r =>
      cases x with
      | node node => cases h
      | relationship rel =>
          rw [relationshipPattern_of_ok h, DocumentRelationship.base]
          cases r.relationType <;> rfl

/-- What the elements of hops become, which come in pairs. -/
theorem becomes_of_hops {index : Nat} {elements : List DocumentElement} : ∀ {hops : List Hop},
    (doc.hops index elements).result = .ok hops →
      List.Forall₂ doc.Becomes (elements.zipIdx index) (Hop.chain hops) := by
  induction index, elements using hops.induct with
  | case1 index =>
      intro hops h
      cases h
      exact .nil
  | case2 index n rest =>
      intro hops h
      cases h
  | case3 index r rest ih =>
      intro hops h
      rw [QueryDocument.hops] at h
      obtain ⟨rel, hrel, htail⟩ := Logged.ok_of_bind h
      cases rest with
      | nil => cases htail
      | cons element rest =>
          cases element with
          | relationship r' => cases htail
          | node n =>
              obtain ⟨more, hmore, hlast⟩ := Logged.ok_of_bind htail
              cases hlast
              exact .cons hrel (.cons rfl (ih hmore))

/-- **What the elements of a document become**, in order. -/
theorem becomes_of_pattern {p : Pattern} (h : doc.pattern.result = .ok p) :
    List.Forall₂ doc.Becomes doc.elements.zipIdx p.chain := by
  unfold pattern at h
  cases helements : doc.elements with
  | nil =>
      rw [helements] at h
      cases h
  | cons element rest =>
      rw [helements] at h
      cases element with
      | relationship r => cases h
      | node n =>
          obtain ⟨hops, hhops, hlast⟩ := Logged.ok_of_bind h
          cases hlast
          exact .cons rfl (becomes_of_hops hhops)

/-- **The elements of the pattern** are those of the document, in order. -/
theorem elements_of_pattern {p : Pattern} (h : doc.pattern.result = .ok p) :
    p.elements = doc.elements.zipIdx.map doc.patternElement := by
  have hsame : List.Forall₂ (fun entry x => doc.patternElement entry = x.element)
      doc.elements.zipIdx p.chain := (becomes_of_pattern h).imp fun _ _ h => h.element_eq.symm
  rw [p.elements_eq_map_chain, eq_comm, ← List.forall₂_eq_eq_eq, List.forall₂_map_left_iff,
    List.forall₂_map_right_iff]
  exact hsame

/-! ### What is written before the return items -/

/-- **What stands in the pattern and in the conditions**: the variables of the elements, and
parameters without a name. -/
def Introduces (doc : QueryDocument) (o : Occurrence) : Prop :=
  (∃ v ∈ doc.elementVariables, o = .variableAt v) ∨
    ∃ p : Parameter, p.name = none ∧ o = .parameterAt p

/-- The expressions that can be written and in which nothing else stands. -/
structure Supports (doc : QueryDocument) (e : Expression) : Prop where
  /-- It can be written. -/
  admissible : ∀ part ∈ e.parts, part.isAdmissible = true
  /-- Nothing else stands in it. -/
  identities : ∀ o ∈ e.occurrences, doc.Introduces o

theorem supports_valueParameter (id : Nat) (value : Value) :
    doc.Supports (valueParameter id value) where
  admissible := List.forall_mem_singleton.2 rfl
  identities := List.forall_mem_singleton.2 (.inr ⟨_, rfl, rfl⟩)

theorem supports_reference {v : Variable} (hv : v ∈ doc.elementVariables) :
    doc.Supports (.reference v) where
  admissible := List.forall_mem_singleton.2 rfl
  identities := List.forall_mem_singleton.2 (.inl ⟨v, hv, rfl⟩)

theorem supports_propertyOf {v : Variable} (hv : v ∈ doc.elementVariables) (key : String) :
    doc.Supports (.propertyOf v key) where
  admissible := List.forall_mem_cons.2 ⟨rfl, List.forall_mem_singleton.2 rfl⟩
  identities := List.forall_mem_singleton.2 (.inl ⟨v, hv, rfl⟩)

theorem Supports.application {op : Operator} {a b : Expression} (ha : doc.Supports a)
    (hb : doc.Supports b) (hop : op.admits 2 = true) :
    doc.Supports (.application op [a, b]) where
  admissible := by
    simp only [Expression.parts, Expression.partsAll, List.append_nil, List.forall_mem_cons,
      List.forall_mem_append]
    exact ⟨hop, ha.admissible, hb.admissible⟩
  identities := by
    simp only [Expression.occurrences, Expression.occurrencesAll, List.append_nil,
      List.forall_mem_append]
    exact ⟨ha.identities, hb.identities⟩

theorem supports_conditionFor (entry : DocumentFilter × Nat) {v : Variable}
    (hv : v ∈ doc.elementVariables) : doc.Supports (conditionFor entry v) :=
  (supports_propertyOf hv entry.1.property).application
    (supports_valueParameter entry.2 entry.1.value) rfl

theorem supports_returned (item : DocumentReturn) {v : Variable}
    (hv : v ∈ doc.elementVariables) : doc.Supports (returned item v) := by
  unfold returned
  cases item.property with
  | none => exact supports_reference hv
  | some property => exact supports_propertyOf hv property

theorem occurrences_returned (item : DocumentReturn) (v : Variable) :
    (returned item v).occurrences = [.variableAt v] := by
  unfold returned
  cases item.property <;> rfl

theorem supports_of_mem_properties {entry : DocumentElement × Nat} {property : String × Expression}
    (h : property ∈ (doc.patternElement entry).properties) : doc.Supports property.2 := by
  obtain ⟨source, -, rfl⟩ := List.mem_map.1 h
  exact supports_valueParameter source.2 source.1.2

/-- The conditions are joined to one. -/
theorem supports_foldl_withCondition {conditions : List Expression}
    (h : ∀ c ∈ conditions, doc.Supports c) : ∀ {clause : MatchClause},
    (∀ e ∈ clause.condition, doc.Supports e) →
      (conditions.foldl MatchClause.withCondition clause).patterns = clause.patterns ∧
        ∀ e ∈ (conditions.foldl MatchClause.withCondition clause).condition, doc.Supports e := by
  induction conditions with
  | nil => exact fun hclause => ⟨rfl, hclause⟩
  | cons c rest ih =>
      intro clause hclause
      rw [List.forall_mem_cons] at h
      have hjoined : ∀ e ∈ (clause.withCondition c).condition, doc.Supports e := by
        rw [MatchClause.withCondition]
        cases hcondition : clause.condition with
        | none =>
            rintro e ⟨⟩
            exact h.1
        | some earlier =>
            rintro e ⟨⟩
            exact (hclause earlier hcondition).application h.1 rfl
      exact ih h.2 hjoined

/-! ### Translations -/

/-- The query that is put together from a pattern, conditions and columns. -/
def assemble (doc : QueryDocument) (p : Pattern) (conditions : List Expression)
    (columns : List Column) : Query :=
  ⟨[.matching (doc.matchClause p conditions), .returning (.ofColumns columns)]⟩

/-- The identities of such a query that are written before the columns. -/
def leadingOccurrences (doc : QueryDocument) (p : Pattern) (conditions : List Expression) :
    List Occurrence :=
  (Clause.matching (doc.matchClause p conditions)).occurrences

/-- **The parts of a query that is a translation.** -/
structure IsTranslation (doc : QueryDocument) (p : Pattern) (conditions : List Expression)
    (columns : List Column) : Prop where
  /-- The pattern has the elements of the document. -/
  elements_eq : p.elements = doc.elements.zipIdx.map doc.patternElement
  /-- The conditions can be written. -/
  supports_conditions : ∀ c ∈ conditions, doc.Supports c
  /-- What is returned refers to the variables of elements. -/
  returned_columns : ∀ c ∈ columns, ∃ item, ∃ v ∈ doc.elementVariables,
    c.expression = returned item v
  /-- The columns have the names of the return items. -/
  aliases_eq : columns.filterMap Column.alias? = doc.aliasVariables

theorem expression_columnFor (entry : DocumentReturn × Nat) (v : Variable) :
    (columnFor entry v).expression = returned entry.1 v := by
  unfold columnFor
  cases entry.1.name <;> rfl

theorem alias?_columnFor (entry : DocumentReturn × Nat) (v : Variable) :
    (columnFor entry v).alias? = aliasVariable? entry := by
  unfold columnFor aliasVariable?
  cases entry.1.name <;> rfl

/-- What refers to a key refers to the variable of the key. -/
theorem exists_of_map_referenced {β : Type} {key : String} {make : Variable → β} {b : β}
    (h : (doc.referenced key).map make = .ok b) : ∃ v, doc.variableOf? key = some v ∧ b = make v := by
  rw [referenced] at h
  cases hv : doc.variableOf? key with
  | none =>
      rw [hv] at h
      cases h
  | some v =>
      rw [hv] at h
      cases h
      exact ⟨v, rfl, rfl⟩

/-- Whether conditions are those of the filters, in order; their parameters are numbered after those
of the properties. -/
def MakesConditions (doc : QueryDocument) (conditions : List Expression) : Prop :=
  List.Forall₂ (fun entry condition =>
      ∃ v, doc.variableOf? entry.1.key = some v ∧ condition = conditionFor entry v)
    (doc.filters.zipIdx (propertyCount doc.elements)) conditions

/-- Whether columns are those of the return items, in order; the variables of their names are
numbered after the elements. -/
def MakesColumns (doc : QueryDocument) (columns : List Column) : Prop :=
  List.Forall₂ (fun entry column =>
      ∃ v, doc.variableOf? entry.1.key = some v ∧ column = columnFor entry v)
    (doc.returns.zipIdx doc.elements.length) columns

theorem MakesColumns.filterMap_alias? {columns : List Column} (h : doc.MakesColumns columns) :
    columns.filterMap Column.alias? = doc.aliasVariables := by
  unfold MakesColumns at h
  unfold aliasVariables
  generalize doc.returns.zipIdx doc.elements.length = entries at h ⊢
  induction h with
  | nil => rfl
  | cons hmade _ ih =>
      obtain ⟨v, -, rfl⟩ := hmade
      rw [List.filterMap_cons, List.filterMap_cons, alias?_columnFor, ih]

/-- **The parts of an accepted document**: its pattern, the conditions of its filters and the columns
of its return items. -/
theorem parts_of_toQuery {q : Query} (h : doc.toQuery.result = .ok q) :
    ∃ p conditions columns, q = doc.assemble p conditions columns ∧ doc.pattern.result = .ok p ∧
      doc.MakesConditions conditions ∧ doc.MakesColumns columns := by
  rw [toQuery_eq] at h
  obtain ⟨p, hp, htail⟩ := Logged.ok_of_bind h
  obtain ⟨conditions, hconditions, htail'⟩ := Logged.ok_of_bind htail
  obtain ⟨columns, hcolumns, hlast⟩ := Logged.ok_of_bind htail'
  cases hlast
  have hfilters := forall₂_of_mapM hconditions
  have hreturns := forall₂_of_mapM hcolumns
  exact ⟨p, conditions, columns, rfl, hp,
    hfilters.imp fun _ _ hmade => exists_of_map_referenced hmade,
    hreturns.imp fun _ _ hmade => exists_of_map_referenced hmade⟩

/-- **What an accepted document is translated to.** -/
theorem exists_isTranslation {q : Query} (h : doc.toQuery.result = .ok q) :
    ∃ p conditions columns, q = doc.assemble p conditions columns ∧
      doc.IsTranslation p conditions columns := by
  obtain ⟨p, conditions, columns, rfl, hp, hfilters, hreturns⟩ := parts_of_toQuery h
  refine ⟨p, conditions, columns, rfl, elements_of_pattern hp, ?_, ?_, hreturns.filterMap_alias?⟩
  · intro c hc
    obtain ⟨entry, -, v, hv, rfl⟩ := exists_mem_of_forall₂ hfilters c hc
    exact supports_conditionFor entry (mem_elementVariables_of_variableOf? hv)
  · intro c hc
    obtain ⟨entry, -, v, hv, rfl⟩ := exists_mem_of_forall₂ hreturns c hc
    exact ⟨entry.1, v, mem_elementVariables_of_variableOf? hv, expression_columnFor entry v⟩

namespace IsTranslation

variable {p : Pattern} {conditions : List Expression} {columns : List Column}

theorem matchClause_parts (h : doc.IsTranslation p conditions columns) :
    (doc.matchClause p conditions).patterns = [p] ∧
      ∀ e ∈ (doc.matchClause p conditions).condition, doc.Supports e :=
  supports_foldl_withCondition h.supports_conditions nofun

theorem occurrences_assemble (doc : QueryDocument) (p : Pattern) (conditions : List Expression)
    (columns : List Column) :
    (Construct.ofQuery (doc.assemble p conditions columns)).occurrences =
      doc.leadingOccurrences p conditions ++
        columns.flatMap Column.occurrences := by
  simp [Construct.occurrences, assemble, leadingOccurrences, Clause.occurrences,
    ReturnClause.ofColumns, partOccurrences]

/-- **Before the return items** stand the variables of the elements and parameters without a
name. -/
theorem introduces_leading (h : doc.IsTranslation p conditions columns) :
    ∀ o ∈ doc.leadingOccurrences p conditions, doc.Introduces o := by
  obtain ⟨hpatterns, hcondition⟩ := h.matchClause_parts
  rw [leadingOccurrences, Clause.occurrences, hpatterns, List.flatMap_singleton,
    List.forall_mem_append]
  constructor
  · intro o ho
    obtain ⟨x, hx, hcases⟩ := PatternElement.mem_of_mem_occurrencesAll ho
    rw [h.elements_eq] at hx
    obtain ⟨entry, hentry, rfl⟩ := List.mem_map.1 hx
    rcases hcases with rfl | hproperty
    · exact .inl ⟨_, List.mem_map.2 ⟨entry, hentry, rfl⟩, rfl⟩
    · rw [Expression.occurrencesEntries_eq_flatMap, List.mem_flatMap] at hproperty
      obtain ⟨property, hmem, ho⟩ := hproperty
      exact (supports_of_mem_properties hmem).identities o ho
  · cases hjoined : (doc.matchClause p conditions).condition with
    | none => exact fun o ho => absurd ho List.not_mem_nil
    | some e => exact (hcondition e hjoined).identities

/-- The variables of all elements stand in the pattern. -/
theorem variableAt_mem_leading (h : doc.IsTranslation p conditions columns) {v : Variable}
    (hv : v ∈ doc.elementVariables) :
    .variableAt v ∈ doc.leadingOccurrences p conditions := by
  obtain ⟨entry, hentry, rfl⟩ := List.mem_map.1 hv
  have hmem : doc.patternElement entry ∈ p.elements := by
    rw [h.elements_eq]
    exact List.mem_map_of_mem hentry
  rw [leadingOccurrences, Clause.occurrences, h.matchClause_parts.1, List.flatMap_singleton,
    List.mem_append]
  exact .inl (PatternElement.variableAt_mem rfl [] hmem)

/-- **A translation can be written.** -/
theorem isWellFormed_assemble (h : doc.IsTranslation p conditions columns) :
    (Construct.ofQuery (doc.assemble p conditions columns)).isWellFormed = true := by
  obtain ⟨hpatterns, hcondition⟩ := h.matchClause_parts
  have hfilled : (Construct.ofQuery (doc.assemble p conditions columns)).isFilled = true := by
    simp [Construct.isFilled, assemble, Clause.isFilled, hpatterns]
  have hpattern : ∀ e ∈ p.writtenExpressions, doc.Supports e := by
    intro e he
    obtain ⟨x, hx, hproperty⟩ := PatternElement.mem_of_mem_writtenExpressions he
    rw [h.elements_eq] at hx
    obtain ⟨entry, -, rfl⟩ := List.mem_map.1 hx
    obtain ⟨property, hmem, rfl⟩ := List.mem_map.1 hproperty
    exact supports_of_mem_properties hmem
  have hwritten : ∀ e ∈ (Construct.ofQuery (doc.assemble p conditions columns)).writtenExpressions,
      doc.Supports e := by
    simp only [Construct.writtenExpressions, assemble, List.flatMap_cons, List.flatMap_nil,
      Clause.writtenExpressions, hpatterns, Clause.expressions, ReturnClause.ofColumns,
      List.map_nil, Option.toList_none, List.append_nil, List.forall_mem_append,
      List.forall_mem_map]
    refine ⟨⟨hpattern, fun e he => hcondition e (Option.mem_toList.1 he)⟩, fun c hc => ?_⟩
    obtain ⟨item, v, hv, hreturned⟩ := h.returned_columns c hc
    rw [hreturned]
    exact supports_returned item hv
  rw [Construct.isWellFormed, hfilled, Bool.true_and, List.all_eq_true]
  intro e he
  rw [List.all_eq_true]
  exact (hwritten e he).admissible

end IsTranslation

end QueryDocument

end CypherQuery
