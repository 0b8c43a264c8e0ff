/-
**A query document and its translation correspond to each other.**

What a document says and what its translation says can be compared part by part, without a look at
how the one is made from the other.  Every element of the pattern carries what its element of the
document says, and nothing else.  Elements share a variable exactly if they share a key.  Every
filter is a comparison with a parameter of its own, and all of them are joined in order.  Every
return item is a column, and its name is a variable that stands nowhere else.

Main definitions:

* `CypherQuery.DocumentElement.IsKeptBy` — what an element of the pattern has from an element of the
  document;
* `CypherQuery.expressionOccurrences` — the identities in the expressions of a query;
* `CypherQuery.QueryDocument.IsFaithful` — **the correspondence, part by part**.

Main results:

* `CypherQuery.QueryDocument.chain_of_pattern` — the elements of the pattern carry those of the
  document;
* `CypherQuery.QueryDocument.pairwise_identities` — which elements share a variable;
* `CypherQuery.QueryDocument.numbers_expressionOccurrences` — the parameters are numbered without a
  gap;
* `CypherQuery.toQuery_faithful` — **translations are faithful**.
-/

import CypherQuery.Proofs.Conditions
import CypherQuery.Proofs.Document.Translation
import CypherQuery.Proofs.ParameterMap

set_option autoImplicit false

namespace CypherQuery

/-! ### Elements -/

/-- Whether a property has the key and the value of an entry; the value is a parameter. -/
def HoldsEntry (entry : String × Value) (property : String × Expression) : Prop :=
  property.1 = entry.1 ∧
    ∃ p : Parameter, p.name = none ∧ p.value = entry.2 ∧ property.2 = .placeholder p

namespace DocumentElement

/-- Whether a node has the labels, or a relationship the type, the direction and the length of an
element of a document.  Labels and type are not hidden. -/
def AnnotatesAs : DocumentElement → ChainElement → Prop
  | .node n, .node kept => kept.labels = n.labels ∧ kept.showsLabels = true
  | .relationship r, .relationship kept =>
      kept.relationType = r.relationType ∧ kept.showsType = true ∧ kept.direction = r.direction ∧
        kept.length = r.length.map DocumentLength.span
  | _, _ => False

/-- **What an element of the pattern has from an element of the document.** -/
structure IsKeptBy (element : DocumentElement) (x : ChainElement) : Prop where
  /-- The labels, or the type, the direction and the length. -/
  annotations : element.AnnotatesAs x
  /-- The properties, in order. -/
  properties : List.Forall₂ HoldsEntry element.properties x.element.properties
  /-- The variable is not hidden. -/
  shown : x.element.shown = true

end DocumentElement

/-! ### The identities in expressions -/

/-- **The identities in the expressions of a query**: those of the properties, of the condition and
of the columns. -/
def expressionOccurrences (p : Pattern) (condition : Option Expression) (columns : List Column) :
    List Occurrence :=
  p.elements.flatMap (fun x => Expression.occurrencesEntries x.properties) ++
    (condition.toList.flatMap Expression.occurrences ++
      columns.flatMap fun c => c.expression.occurrences)

/-! ### The correspondence -/

namespace QueryDocument

/-- Whether a variable is that of the elements with a key. -/
def IsVariableOf (doc : QueryDocument) (p : Pattern) (key : String) (v : Variable) : Prop :=
  ∃ element, (element, v) ∈ doc.elements.zip p.identities ∧ element.key = some key

/-- Whether a condition compares the property of a filter with its value. -/
def IsComparison (doc : QueryDocument) (p : Pattern) (filter : DocumentFilter)
    (condition : Expression) : Prop :=
  ∃ (v : Variable) (parameter : Parameter), doc.IsVariableOf p filter.key v ∧
    parameter.name = none ∧ parameter.value = filter.value ∧
    condition = .equals (.propertyOf v filter.property) (.placeholder parameter)

/-- Whether a column returns what an item says, under the name that it says. -/
structure IsColumn (doc : QueryDocument) (p : Pattern) (item : DocumentReturn) (c : Column) :
    Prop where
  /-- What is returned. -/
  expression : ∃ v, doc.IsVariableOf p item.key v ∧ c.expression = returned item v
  /-- The name, which is explicit. -/
  alias? : c.alias?.map Variable.name = item.name.map some
  /-- The name stands for a value. -/
  kind : ∀ v ∈ c.alias?, v.kind = .value

/-- **The correspondence of a document with a pattern, a condition and columns, part by part.** -/
structure IsFaithful (doc : QueryDocument) (p : Pattern) (condition : Option Expression)
    (columns : List Column) : Prop where
  /-- Every element carries what the element of the document at its place says. -/
  elements : List.Forall₂ DocumentElement.IsKeptBy doc.elements p.chain
  /-- Two elements share a variable exactly if both have a key and it is the same. -/
  shared : (doc.elements.zip p.identities).Pairwise fun entry other =>
    entry.2 = other.2 ↔ ∃ key, entry.1.key = some key ∧ other.1.key = some key
  /-- The variable of an element without a key stands in no expression. -/
  unkeyed : ∀ entry ∈ doc.elements.zip p.identities, entry.1.key = none →
    .variableAt entry.2 ∉ expressionOccurrences p condition columns
  /-- Variables are named by their keys, or not at all. -/
  named : ∀ entry ∈ doc.elements.zip p.identities,
    entry.2.name = if doc.namedVariables then entry.1.key else none
  /-- The filters are comparisons, in order and joined from the left. -/
  filters : ∃ comparisons, List.Forall₂ (doc.IsComparison p) doc.filters comparisons ∧
    condition = conjunction comparisons
  /-- No parameter stands in two places. -/
  parameters :
    ((expressionOccurrences p condition columns).filterMap Occurrence.parameter?).Nodup
  /-- The return items are columns, in order. -/
  returns : List.Forall₂ (doc.IsColumn p) doc.returns columns
  /-- Different columns have different variables for their names. -/
  aliases : (columns.filterMap Column.alias?).Nodup
  /-- These variables are no elements, and stand in no expression. -/
  fresh : ∀ v ∈ columns.filterMap Column.alias?,
    v ∉ p.identities ∧ .variableAt v ∉ expressionOccurrences p condition columns

variable {doc : QueryDocument} {p : Pattern}

/-! ### Elements carry what the document says -/

theorem holdsEntry_propertyParameters (properties : Dictionary Value) : ∀ first : Nat,
    List.Forall₂ HoldsEntry properties (propertyParameters first properties) := by
  induction properties with
  | nil => exact fun _ => .nil
  | cons entry rest ih =>
      exact fun first => .cons ⟨rfl, _, rfl, rfl, rfl⟩ (ih (first + 1))

theorem isKeptBy_of_becomes {entry : DocumentElement × Nat} {x : ChainElement}
    (h : doc.Becomes entry x) : entry.1.IsKeptBy x := by
  obtain ⟨element, index⟩ := entry
  cases element with
  | node n =>
      cases x with
      | relationship rel => cases h
      | node node =>
          cases h
          exact ⟨⟨rfl, rfl⟩, holdsEntry_propertyParameters _ _, rfl⟩
  | relationship r =>
      cases x with
      | node node => cases h
      | relationship rel =>
          rw [relationshipPattern_of_ok h, DocumentRelationship.base]
          cases htype : r.relationType <;>
            exact ⟨⟨htype.symm, rfl, rfl, rfl⟩, holdsEntry_propertyParameters _ _, rfl⟩

/-- **The elements of the pattern carry those of the document**, in order. -/
theorem chain_of_pattern (h : doc.pattern.result = .ok p) :
    List.Forall₂ DocumentElement.IsKeptBy doc.elements p.chain := by
  have hkept : List.Forall₂ (fun entry x => DocumentElement.IsKeptBy (Prod.fst entry) x)
      doc.elements.zipIdx p.chain := (becomes_of_pattern h).imp fun _ _ h => isKeptBy_of_becomes h
  rwa [← List.forall₂_map_left_iff, List.zipIdx_map_fst] at hkept

/-! ### Which elements share a variable -/

theorem identities_eq_map_elements (p : Pattern) :
    p.identities = p.elements.map PatternElement.identity := by
  rw [Pattern.elements, Hop.elements, List.map_cons, List.map_flatMap]
  rfl

/-- The elements of the document with the variables that they have in the pattern. -/
theorem zip_identities (h : p.elements = doc.elements.zipIdx.map doc.patternElement) :
    doc.elements.zip p.identities =
      doc.elements.zipIdx.map fun entry => (entry.1, doc.variableAt entry.2 entry.1) := by
  have hidentities : p.identities =
      doc.elements.zipIdx.map fun entry => doc.variableAt entry.2 entry.1 := by
    rw [identities_eq_map_elements, h, List.map_map]
    rfl
  have hzip := List.zip_map' (l := doc.elements.zipIdx) (f := Prod.fst)
    (g := fun entry => doc.variableAt entry.2 entry.1)
  rwa [List.zipIdx_map_fst, ← hidentities] at hzip

theorem referent_eq_iff {entry other : DocumentElement × Nat} (hne : entry.2 ≠ other.2) :
    referent entry = referent other ↔
      ∃ key, entry.1.key = some key ∧ other.1.key = some key := by
  cases hkey : entry.1.key with
  | none =>
      refine iff_of_false (fun heq => ?_) (fun ⟨key, hsome, _⟩ => nomatch hsome)
      have hother := referent_eq_inr_iff.1 (heq.symm.trans (referent_eq_inr_iff.2 ⟨hkey, rfl⟩))
      exact hne hother.2.symm
  | some key =>
      rw [referent_eq_inl_iff.2 hkey, eq_comm, referent_eq_inl_iff]
      constructor
      · intro hother
        exact ⟨key, rfl, hother⟩
      · rintro ⟨_, ⟨⟩, hother⟩
        exact hother

/-- **Which elements share a variable.** -/
theorem pairwise_identities (h : p.elements = doc.elements.zipIdx.map doc.patternElement) :
    (doc.elements.zip p.identities).Pairwise fun entry other =>
      entry.2 = other.2 ↔ ∃ key, entry.1.key = some key ∧ other.1.key = some key := by
  rw [zip_identities h, List.pairwise_map]
  refine (pairwise_zipIdx_ne doc.elements 0).imp_of_mem ?_
  intro entry other hentry hother hne
  exact (variableAt_eq_iff hentry hother).trans (referent_eq_iff hne)

/-- The variable of a key is that of the elements with it. -/
theorem isVariableOf_of_variableOf? (h : p.elements = doc.elements.zipIdx.map doc.patternElement)
    {key : String} {v : Variable} (hv : doc.variableOf? key = some v) :
    doc.IsVariableOf p key v := by
  obtain ⟨source, hsource, hkey, -⟩ := exists_introduced_of_variableOf? hv
  refine ⟨source.1, ?_, hkey⟩
  rw [zip_identities h, List.mem_map]
  exact ⟨source, hsource, congrArg _ (variableAt_of_key hkey hv)⟩

/-- The variable of an element without a key is that of no key. -/
theorem not_isVariableOf_of_unkeyed
    (h : p.elements = doc.elements.zipIdx.map doc.patternElement)
    {entry : DocumentElement × Variable} (hentry : entry ∈ doc.elements.zip p.identities)
    (hunkeyed : entry.1.key = none) (key : String) : ¬ doc.IsVariableOf p key entry.2 := by
  rintro ⟨element, helement, hkey⟩
  rw [zip_identities h, List.mem_map] at hentry helement
  obtain ⟨source, hsource, rfl⟩ := hentry
  obtain ⟨other, hother, heq⟩ := helement
  obtain ⟨rfl, hsame⟩ := Prod.mk.inj heq
  have hreferent := (variableAt_eq_iff hother hsource).1 hsame
  rw [referent_eq_inl_iff.2 hkey] at hreferent
  rw [referent_eq_inl_iff.1 hreferent.symm] at hunkeyed
  cases hunkeyed

/-- Variables are named by their keys, or not at all. -/
theorem name_of_mem_zip (h : p.elements = doc.elements.zipIdx.map doc.patternElement)
    {entry : DocumentElement × Variable} (hentry : entry ∈ doc.elements.zip p.identities) :
    entry.2.name = if doc.namedVariables then entry.1.key else none := by
  rw [zip_identities h, List.mem_map] at hentry
  obtain ⟨numbered, hnumbered, rfl⟩ := hentry
  obtain ⟨source, -, hreferent, hv⟩ := exists_source hnumbered
  have hkey : source.1.key = numbered.1.key := by
    cases hkey : numbered.1.key with
    | none => exact (referent_eq_inr_iff.1 (hreferent.trans (referent_eq_inr_iff.2 ⟨hkey, rfl⟩))).1
    | some key => exact referent_eq_inl_iff.1 (hreferent.trans (referent_eq_inl_iff.2 hkey))
  rw [hv, introduced, hkey]

/-! ### Conditions and columns -/

/-- The conditions are joined from the left. -/
theorem matchClause_eq (conditions : List Expression) :
    doc.matchClause p conditions = ⟨doc.optional, [p], conjunction conditions⟩ :=
  MatchClause.foldl_withCondition conditions ⟨doc.optional, [p], none⟩

theorem occurrences_foldl_and (conditions : List Expression) : ∀ joined : Expression,
    (conditions.foldl Expression.and joined).occurrences =
      joined.occurrences ++ conditions.flatMap Expression.occurrences := by
  induction conditions with
  | nil => intro joined; exact (List.append_nil _).symm
  | cons condition rest ih =>
      intro joined
      have hjoined : (joined.and condition).occurrences =
          joined.occurrences ++ condition.occurrences := by
        rw [Expression.and, Expression.occurrences]
        simp [Expression.occurrencesAll]
      rw [List.foldl_cons, ih, hjoined, List.flatMap_cons, List.append_assoc]

theorem occurrences_conjunction (conditions : List Expression) :
    (conjunction conditions).toList.flatMap Expression.occurrences =
      conditions.flatMap Expression.occurrences := by
  cases conditions with
  | nil => rfl
  | cons first rest =>
      rw [conjunction, Option.toList_some, List.flatMap_singleton, occurrences_foldl_and,
        List.flatMap_cons]

/-- A filter is a comparison with the value. -/
theorem isComparison_of_makes (h : p.elements = doc.elements.zipIdx.map doc.patternElement)
    {conditions : List Expression} (hconditions : doc.MakesConditions conditions) :
    List.Forall₂ (doc.IsComparison p) doc.filters conditions := by
  have hmade : List.Forall₂ (fun entry => doc.IsComparison p (Prod.fst entry))
      (doc.filters.zipIdx (propertyCount doc.elements)) conditions := by
    refine hconditions.imp ?_
    rintro entry condition ⟨v, hv, rfl⟩
    exact ⟨v, _, isVariableOf_of_variableOf? h hv, rfl, rfl, rfl⟩
  rwa [← List.forall₂_map_left_iff, List.zipIdx_map_fst] at hmade

/-- A return item is a column. -/
theorem isColumn_of_makes (h : p.elements = doc.elements.zipIdx.map doc.patternElement)
    {columns : List Column} (hcolumns : doc.MakesColumns columns) :
    List.Forall₂ (doc.IsColumn p) doc.returns columns := by
  have hmade : List.Forall₂ (fun entry => doc.IsColumn p (Prod.fst entry))
      (doc.returns.zipIdx doc.elements.length) columns := by
    refine hcolumns.imp ?_
    rintro entry column ⟨v, hv, rfl⟩
    refine ⟨⟨v, isVariableOf_of_variableOf? h hv, expression_columnFor entry v⟩, ?_, ?_⟩
    · rw [alias?_columnFor, aliasVariable?, Option.map_map]
      cases entry.1.name <;> rfl
    · rw [alias?_columnFor, aliasVariable?]
      intro name hname
      obtain ⟨s, -, rfl⟩ := Option.map_eq_some_iff.1 hname
      rfl
  rwa [← List.forall₂_map_left_iff, List.zipIdx_map_fst] at hmade

/-! ### The identities in expressions -/

/-- The numbers of the parameters at some places. -/
def parameterNumbers (os : List Occurrence) : List Nat :=
  (os.filterMap Occurrence.parameter?).map Parameter.id

theorem parameterNumbers_append (os os' : List Occurrence) :
    parameterNumbers (os ++ os') = parameterNumbers os ++ parameterNumbers os' := by
  rw [parameterNumbers, List.filterMap_append, List.map_append]
  rfl

theorem numbers_propertyParameters (properties : Dictionary Value) : ∀ first : Nat,
    parameterNumbers (Expression.occurrencesEntries (propertyParameters first properties)) =
      List.range' first properties.length := by
  induction properties with
  | nil => intro first; rfl
  | cons entry rest ih =>
      intro first
      have hcons : Expression.occurrencesEntries (propertyParameters first (entry :: rest)) =
          [.parameterAt ⟨first, none, entry.2⟩] ++
            Expression.occurrencesEntries (propertyParameters (first + 1) rest) := rfl
      rw [hcons, parameterNumbers_append, ih, List.length_cons, List.range'_succ]
      rfl

/-- The parameters of the properties are numbered through all elements. -/
theorem numbers_elements (after : List DocumentElement) : ∀ before : List DocumentElement,
    doc.elements = before ++ after →
      parameterNumbers ((after.zipIdx before.length).flatMap fun entry =>
        Expression.occurrencesEntries (doc.patternElement entry).properties) =
          List.range' (propertyCount before) (propertyCount after) := by
  induction after with
  | nil => intro before _; rfl
  | cons element rest ih =>
      intro before helements
      have hfirst := doc.firstParameter_length helements
      have hrest := ih (before ++ [element]) (by rw [helements, List.append_assoc]; rfl)
      rw [List.length_append, List.length_singleton, propertyCount_append] at hrest
      have hcount : propertyCount [element] = element.properties.length := rfl
      rw [hcount] at hrest
      rw [List.zipIdx_cons, List.flatMap_cons, parameterNumbers_append, hrest, patternElement,
        numbers_propertyParameters, hfirst, propertyCount, List.range'_append_1]

/-- The parameters of the filters are numbered after them. -/
theorem numbers_conditions {conditions : List Expression} (h : doc.MakesConditions conditions) :
    parameterNumbers (conditions.flatMap Expression.occurrences) =
      List.range' (propertyCount doc.elements) doc.filters.length := by
  rw [← List.zipIdx_map_snd]
  unfold MakesConditions at h
  generalize doc.filters.zipIdx (propertyCount doc.elements) = entries at h ⊢
  induction h with
  | nil => rfl
  | cons hmade _ ih =>
      obtain ⟨v, -, rfl⟩ := hmade
      rw [List.flatMap_cons, parameterNumbers_append, ih]
      rfl

/-- There are no parameters in the columns. -/
theorem numbers_columns {columns : List Column} (h : doc.MakesColumns columns) :
    parameterNumbers (columns.flatMap fun c => c.expression.occurrences) = [] := by
  unfold MakesColumns at h
  generalize doc.returns.zipIdx doc.elements.length = entries at h
  induction h with
  | nil => rfl
  | cons hmade _ ih =>
      obtain ⟨v, -, rfl⟩ := hmade
      rw [List.flatMap_cons, parameterNumbers_append, ih, expression_columnFor,
        occurrences_returned]
      rfl

/-- **The parameters are numbered without a gap**, so that no one stands in two places. -/
theorem numbers_expressionOccurrences
    (h : p.elements = doc.elements.zipIdx.map doc.patternElement) {conditions : List Expression}
    {columns : List Column} (hconditions : doc.MakesConditions conditions)
    (hcolumns : doc.MakesColumns columns) :
    parameterNumbers (expressionOccurrences p (conjunction conditions) columns) =
      List.range (propertyCount doc.elements + doc.filters.length) := by
  have helements : parameterNumbers (doc.elements.zipIdx.flatMap fun entry =>
      Expression.occurrencesEntries (doc.patternElement entry).properties) =
        List.range' 0 (propertyCount doc.elements) := numbers_elements doc.elements [] rfl
  have hproperties : p.elements.flatMap (fun x => Expression.occurrencesEntries x.properties) =
      doc.elements.zipIdx.flatMap fun entry =>
        Expression.occurrencesEntries (doc.patternElement entry).properties := by
    rw [h, List.flatMap_map]
  rw [expressionOccurrences, parameterNumbers_append, parameterNumbers_append, hproperties,
    helements, occurrences_conjunction, numbers_conditions hconditions, numbers_columns hcolumns,
    List.append_nil, List.range_eq_range', ← List.range'_append_1, Nat.zero_add]

/-- A variable in an expression is that of a key. -/
theorem isVariableOf_of_mem_expressionOccurrences
    (h : p.elements = doc.elements.zipIdx.map doc.patternElement) {conditions : List Expression}
    {columns : List Column} (hconditions : doc.MakesConditions conditions)
    (hcolumns : doc.MakesColumns columns) {v : Variable}
    (hv : .variableAt v ∈ expressionOccurrences p (conjunction conditions) columns) :
    ∃ key, doc.IsVariableOf p key v := by
  rw [expressionOccurrences, occurrences_conjunction, List.mem_append, List.mem_append,
    List.mem_flatMap, List.mem_flatMap, List.mem_flatMap] at hv
  rcases hv with ⟨x, hx, hproperty⟩ | ⟨condition, hcondition, ho⟩ | ⟨column, hcolumn, ho⟩
  · -- the properties are parameters
    rw [h] at hx
    obtain ⟨entry, -, rfl⟩ := List.mem_map.1 hx
    rw [Expression.occurrencesEntries_eq_flatMap, List.mem_flatMap] at hproperty
    obtain ⟨property, hmem, ho⟩ := hproperty
    obtain ⟨source, -, rfl⟩ := List.mem_map.1 hmem
    cases List.mem_singleton.1 ho
  · obtain ⟨entry, -, w, hw, rfl⟩ := exists_mem_of_forall₂ hconditions condition hcondition
    have hlist : (conditionFor entry w).occurrences =
        [.variableAt w, .parameterAt ⟨entry.2, none, entry.1.value⟩] := rfl
    rw [hlist] at ho
    simp only [List.mem_cons, Occurrence.variableAt.injEq, reduceCtorEq, List.not_mem_nil,
      or_false] at ho
    exact ⟨entry.1.key, isVariableOf_of_variableOf? h (ho ▸ hw)⟩
  · obtain ⟨entry, -, w, hw, rfl⟩ := exists_mem_of_forall₂ hcolumns column hcolumn
    rw [expression_columnFor, occurrences_returned, List.mem_singleton] at ho
    cases ho
    exact ⟨entry.1.key, isVariableOf_of_variableOf? h hw⟩

/-- The variable of the name of a return item is that of no element. -/
theorem not_mem_identities_of_alias
    (h : p.elements = doc.elements.zipIdx.map doc.patternElement) {v : Variable}
    (hv : v ∈ doc.aliasVariables) : v ∉ p.identities := by
  rw [identities_eq_map_elements, h, List.map_map]
  intro hmem
  have helement : v ∈ doc.elementVariables := hmem
  obtain ⟨index, element, hindex, rfl⟩ := exists_introduced_of_mem helement
  exact absurd (of_mem_aliasVariables hv).1 (Nat.not_le.2 hindex)

theorem IsVariableOf.mem_identities {key : String} {v : Variable} (h : doc.IsVariableOf p key v) :
    v ∈ p.identities := by
  obtain ⟨element, hmem, -⟩ := h
  exact (List.of_mem_zip hmem).2

/-- The parts of an accepted document correspond to it. -/
theorem isFaithful_of_makes (hp : doc.pattern.result = .ok p) {conditions : List Expression}
    {columns : List Column} (hconditions : doc.MakesConditions conditions)
    (hcolumns : doc.MakesColumns columns) :
    doc.IsFaithful p (conjunction conditions) columns := by
  have h := elements_of_pattern hp
  have hkeyed := fun v => isVariableOf_of_mem_expressionOccurrences (v := v) h hconditions hcolumns
  refine ⟨chain_of_pattern hp, pairwise_identities h, ?_, fun entry => name_of_mem_zip h,
    ⟨conditions, isComparison_of_makes h hconditions, rfl⟩, ?_, isColumn_of_makes h hcolumns, ?_,
    ?_⟩
  · intro entry hentry hunkeyed hmem
    obtain ⟨key, hkey⟩ := hkeyed _ hmem
    exact not_isVariableOf_of_unkeyed h hentry hunkeyed key hkey
  · have hnumbers : (parameterNumbers _).Nodup :=
      (numbers_expressionOccurrences h hconditions hcolumns).symm ▸ List.nodup_range
    exact List.Nodup.of_map Parameter.id hnumbers
  · rw [hcolumns.filterMap_alias?]
    exact nodup_aliasVariables
  · rw [hcolumns.filterMap_alias?]
    intro v hv
    have hnew := not_mem_identities_of_alias h hv
    refine ⟨hnew, fun hmem => ?_⟩
    obtain ⟨key, hkey⟩ := hkeyed v hmem
    exact hnew hkey.mem_identities

end QueryDocument

/-- A path back to where it started, over an element without a key. -/
def returnDocument : QueryDocument where
  optional := true
  namedVariables := false
  elements := [.node ⟨some "a", ["Person"], [("name", .text "Ann")]⟩,
    .relationship ⟨some "r", some "KNOWS", .right, some (.between (some 1) (some 3)), []⟩,
    .node ⟨none, [], [("age", .integer 7)]⟩,
    .relationship ⟨none, none, .left, some (.text " *"), []⟩,
    .node ⟨some "a", [], []⟩]
  filters := [⟨"r", "since", .integer 1999⟩, ⟨"a", "age", .integer 8⟩]
  returns := [⟨"a", none, none⟩, ⟨"r", some "since", some "since"⟩]

end CypherQuery
