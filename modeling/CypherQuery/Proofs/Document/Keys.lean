/-
**The keys of a document are local.**

Keys say which elements share a variable and to which variable a filter or a return item refers, and
unless the document asks for it they are no names.  So other keys in their places, different ones
for different ones, make no difference: the translation is the same query, and with it everything
that is built from it.  A key shows in a single place, the error about a reference to a key that
there is not.

Main definitions:

* `CypherQuery.QueryDocument.keys`, `CypherQuery.QueryDocument.renameKeys` — the keys of a document,
  and the document with other keys;
* `CypherQuery.QueryDocument.compile` — the translation of a document and the build of the query.

Main results:

* `CypherQuery.QueryDocument.variableOf?_renameKeys` — a key stands for the variable for which it
  stood;
* `CypherQuery.QueryDocument.toQuery_renameKeys` — the translation of a document with other keys;
* `CypherQuery.compile_renameKeys` — **documents that differ in their keys alone**.
-/

import CypherQuery.Proofs.Document.Defects
import Mathlib.Data.List.Find

set_option autoImplicit false

namespace CypherQuery

/-! ### Computations with their errors changed -/

section

variable {ε ε' α β : Type}

theorem Logged.mapError_bind (r : ε → ε') (x : Logged ε α) (g : α → Logged ε β) :
    (x >>= g).mapError r = x.mapError r >>= fun a => (g a).mapError r := by
  obtain ⟨result, log⟩ := x
  cases result <;> rfl

theorem Logged.mapError_ofExcept (r : ε → ε') (x : Except ε α) :
    (Logged.ofExcept x).mapError r = Logged.ofExcept (x.mapError r) :=
  rfl

/-- One computation for each item, with the errors changed. -/
theorem mapM_mapError {step : α → Except ε β} {step' : α → Except ε' β} {r : ε → ε'} {as : List α}
    (h : ∀ a ∈ as, step' a = (step a).mapError r) :
    as.mapM step' = (as.mapM step).mapError r := by
  induction as with
  | nil => rfl
  | cons a rest ih =>
      rw [List.forall_mem_cons] at h
      rw [List.mapM_cons, List.mapM_cons, h.1, ih h.2]
      cases step a with
      | error e => rfl
      | ok b => cases rest.mapM step <;> rfl

end

/-! ### Other keys -/

namespace DocumentElement

/-- An element with another key. -/
def renameKey (f : String → String) : DocumentElement → DocumentElement
  | .node n => .node { n with key := n.key.map f }
  | .relationship r => .relationship { r with key := r.key.map f }

variable (f : String → String) (element : DocumentElement)

@[simp] theorem key_renameKey : (element.renameKey f).key = element.key.map f := by
  cases element <;> rfl

@[simp] theorem properties_renameKey :
    (element.renameKey f).properties = element.properties := by
  cases element <;> rfl

@[simp] theorem sort_renameKey : (element.renameKey f).sort = element.sort := by
  cases element <;> rfl

end DocumentElement

/-- The error about a document with other keys. -/
def DocumentError.renameKey (f : String → String) : DocumentError → DocumentError
  | .unknownVariable key => .unknownVariable (f key)
  | e => e

/-- A length can only be wrong because of its text. -/
theorem DocumentLength.error_toPathLength {length : DocumentLength} {e : DocumentError}
    (h : length.toPathLength = .error e) : ∃ text, e = .invalidLength text := by
  cases length with
  | exactly hops => cases h
  | between least greatest => cases h
  | text s =>
      rw [toPathLength] at h
      split at h
      · cases h
      · cases h
        exact ⟨s, rfl⟩

/-- What is wrong with a relationship does not name a key. -/
theorem DocumentRelationship.mapError_pattern (f : String → String) (r : DocumentRelationship)
    (v : Variable) (first : Nat) :
    (r.pattern v first).mapError (DocumentError.renameKey f) = r.pattern v first := by
  rw [pattern]
  cases r.length with
  | none => rfl
  | some length =>
      cases hlength : length.toPathLength with
      | error e =>
          obtain ⟨text, rfl⟩ := DocumentLength.error_toPathLength hlength
          simp only [hlength]
          rfl
      | ok path =>
          simp only [hlength, Logged.mapError]
          cases ((r.base v first).withLength path).result <;> rfl

namespace QueryDocument

/-- **The keys of a document**: those of its elements, and those to which something refers. -/
def keys (doc : QueryDocument) : List String :=
  doc.elements.filterMap DocumentElement.key ++
    (doc.filters.map DocumentFilter.key ++ doc.returns.map DocumentReturn.key)

/-- **The document with other keys**, in the pattern as well as where something refers to them. -/
def renameKeys (f : String → String) (doc : QueryDocument) : QueryDocument :=
  { doc with
    elements := doc.elements.map (DocumentElement.renameKey f)
    filters := doc.filters.map fun filter => { filter with key := f filter.key }
    returns := doc.returns.map fun item => { item with key := f item.key } }

/-- **The translation of a document and the build of the query**, with the errors of both. -/
def compile (doc : QueryDocument) (config : BuildConfig) :
    Logged (DocumentError ⊕ BuildError) BuildResult := do
  let q ← doc.toQuery.mapError .inl
  ((Construct.ofQuery q).build config).mapError .inr

section

variable {f : String → String} {doc : QueryDocument} (hnamed : doc.namedVariables = false)
  (hinj : ∀ a ∈ doc.keys, ∀ b ∈ doc.keys, f a = f b → a = b)

/-! ### The variables -/

theorem key_mem_keys {element : DocumentElement} (h : element ∈ doc.elements) {key : String}
    (hkey : element.key = some key) : key ∈ doc.keys :=
  List.mem_append_left _ (List.mem_filterMap.2 ⟨element, h, hkey⟩)

include hnamed in
/-- What an element introduces does not depend on its key. -/
theorem introduced_renameKeys (index : Nat) (element : DocumentElement) :
    (doc.renameKeys f).introduced index (element.renameKey f) = doc.introduced index element := by
  have hnamed' : (doc.renameKeys f).namedVariables = false := hnamed
  rw [introduced, introduced, DocumentElement.sort_renameKey, hnamed, hnamed']
  rfl

include hnamed hinj in
/-- **A key stands for the variable for which it stood.** -/
theorem variableOf?_renameKeys {key : String} (hkey : key ∈ doc.keys) :
    (doc.renameKeys f).variableOf? (f key) = doc.variableOf? key := by
  have hsame : ∀ e ∈ doc.elements.zipIdx,
      ((e.1.renameKey f).key == some (f key)) = (e.1.key == some key) := by
    intro e he
    rw [DocumentElement.key_renameKey, Bool.eq_iff_iff, beq_iff_eq, beq_iff_eq,
      Option.map_eq_some_iff]
    constructor
    · rintro ⟨other, hother, heq⟩
      rw [hother, hinj other (key_mem_keys (List.fst_mem_of_mem_zipIdx he) hother) key hkey heq]
    · intro h
      exact ⟨key, h, rfl⟩
  have hfind : ((doc.renameKeys f).elements.zipIdx.find? fun e => e.1.key == some (f key)) =
      (doc.elements.zipIdx.find? fun e => e.1.key == some key).map
        (Prod.map (DocumentElement.renameKey f) id) := by
    rw [renameKeys, List.zipIdx_map, List.find?_map]
    exact congrArg _ (List.find?_congr hsame)
  rw [variableOf?, variableOf?, hfind, Option.map_map]
  exact congrArg (Option.map · _) (funext fun e => introduced_renameKeys hnamed e.2 e.1)

include hnamed hinj in
theorem referenced_renameKeys {key : String} (hkey : key ∈ doc.keys) :
    (doc.renameKeys f).referenced (f key) =
      (doc.referenced key).mapError (DocumentError.renameKey f) := by
  rw [referenced, referenced, variableOf?_renameKeys hnamed hinj hkey]
  cases doc.variableOf? key <;> rfl

include hnamed hinj in
theorem variableAt_renameKeys (index : Nat) {element : DocumentElement}
    (h : element ∈ doc.elements) :
    (doc.renameKeys f).variableAt index (element.renameKey f) = doc.variableAt index element := by
  rw [variableAt, variableAt, introduced_renameKeys hnamed, DocumentElement.key_renameKey]
  cases hkey : element.key with
  | none => rfl
  | some key =>
      rw [Option.map_some, Option.bind_some, Option.bind_some,
        variableOf?_renameKeys hnamed hinj (key_mem_keys h hkey)]

/-! ### The pattern -/

theorem propertyCount_renameKeys (elements : List DocumentElement) :
    propertyCount (elements.map (DocumentElement.renameKey f)) = propertyCount elements := by
  induction elements with
  | nil => rfl
  | cons element rest ih =>
      rw [List.map_cons, propertyCount, propertyCount, ih, DocumentElement.properties_renameKey]

theorem firstParameter_renameKeys (index : Nat) :
    (doc.renameKeys f).firstParameter index = doc.firstParameter index := by
  rw [firstParameter, renameKeys, ← List.map_take, propertyCount_renameKeys]
  rfl

include hnamed hinj in
theorem nodePattern_renameKeys (index : Nat) {n : DocumentNode} (h : .node n ∈ doc.elements) :
    (doc.renameKeys f).nodePattern index { n with key := n.key.map f } =
      doc.nodePattern index n := by
  have hvariable : (doc.renameKeys f).variableAt index (.node { n with key := n.key.map f }) = _ :=
    variableAt_renameKeys hnamed hinj index h
  rw [nodePattern, nodePattern, hvariable, firstParameter_renameKeys]
  rfl

include hnamed hinj in
theorem relationshipPattern_renameKeys (index : Nat) {r : DocumentRelationship}
    (h : .relationship r ∈ doc.elements) :
    (doc.renameKeys f).relationshipPattern index { r with key := r.key.map f } =
      (doc.relationshipPattern index r).mapError (DocumentError.renameKey f) := by
  have hvariable : (doc.renameKeys f).variableAt index
      (.relationship { r with key := r.key.map f }) = _ :=
    variableAt_renameKeys hnamed hinj index h
  rw [relationshipPattern, relationshipPattern, hvariable, firstParameter_renameKeys,
    DocumentRelationship.mapError_pattern]
  rfl

include hnamed hinj in
/-- The hops of a document with other keys, which come in pairs. -/
theorem hops_renameKeys (index : Nat) (elements : List DocumentElement) :
    elements ⊆ doc.elements →
    (doc.renameKeys f).hops index (elements.map (DocumentElement.renameKey f)) =
      (doc.hops index elements).mapError (DocumentError.renameKey f) := by
  induction index, elements using hops.induct with
  | case1 index => intro _; rfl
  | case2 index n rest => intro _; rfl
  | case3 index r rest ih =>
      intro hsub
      rw [List.cons_subset] at hsub
      have hrel := relationshipPattern_renameKeys hnamed hinj index hsub.1
      rw [List.map_cons, DocumentElement.renameKey, hops, hops, hrel, Logged.mapError_bind]
      refine congrArg _ (funext fun rel => ?_)
      cases rest with
      | nil => rfl
      | cons element rest =>
          cases element with
          | relationship r' => rfl
          | node n =>
              obtain ⟨hnode, hrest⟩ := List.cons_subset.1 hsub.2
              rw [Logged.mapError_bind, ← ih hrest]
              simp only [List.map_cons, DocumentElement.renameKey,
                nodePattern_renameKeys hnamed hinj (index + 1) hnode]
              rfl

include hnamed hinj in
theorem pattern_renameKeys :
    (doc.renameKeys f).pattern = doc.pattern.mapError (DocumentError.renameKey f) := by
  have helements : (doc.renameKeys f).elements =
      doc.elements.map (DocumentElement.renameKey f) := rfl
  rw [pattern, pattern, helements]
  cases hdoc : doc.elements with
  | nil => rfl
  | cons element rest =>
      cases element with
      | relationship r => rfl
      | node n =>
          have hnode := nodePattern_renameKeys hnamed hinj 0
            (hdoc ▸ List.mem_cons_self : .node n ∈ doc.elements)
          have hhops := hops_renameKeys hnamed hinj 1 rest
            (hdoc ▸ List.subset_cons_self _ rest : rest ⊆ doc.elements)
          simp only [List.map_cons, DocumentElement.renameKey, hnode, hhops, Logged.mapError_bind]
          rfl

/-! ### References -/

include hnamed hinj in
/-- References from several places to keys of the document. -/
theorem mapM_referenced_renameKeys {α β : Type} {items : List α} {rename : α → α}
    (first : Nat) (keyOf : α → String) (hkeyOf : ∀ item, keyOf (rename item) = f (keyOf item))
    (hkeys : ∀ item ∈ items, keyOf item ∈ doc.keys) (make : α × Nat → Variable → β)
    (hmake : ∀ item id, make (rename item, id) = make (item, id)) :
    (((items.map rename).zipIdx first).mapM fun entry =>
        ((doc.renameKeys f).referenced (keyOf entry.1)).map (make entry)) =
      ((items.zipIdx first).mapM fun entry =>
        (doc.referenced (keyOf entry.1)).map (make entry)).mapError
          (DocumentError.renameKey f) := by
  rw [List.zipIdx_map, List.mapM_map]
  refine mapM_mapError fun entry hentry => ?_
  obtain ⟨item, id⟩ := entry
  have hkey := hkeys item (List.fst_mem_of_mem_zipIdx hentry)
  change ((doc.renameKeys f).referenced (keyOf (rename item))).map (make (rename item, id)) = _
  rw [hkeyOf, hmake, referenced_renameKeys hnamed hinj hkey]
  cases doc.referenced (keyOf item) <;> rfl

include hnamed hinj in
/-- **The translation of a document with other keys** is the same. -/
theorem toQuery_renameKeys :
    (doc.renameKeys f).toQuery = doc.toQuery.mapError (DocumentError.renameKey f) := by
  have hcount : propertyCount (doc.renameKeys f).elements = propertyCount doc.elements :=
    propertyCount_renameKeys doc.elements
  have hlength : (doc.renameKeys f).elements.length = doc.elements.length := List.length_map _
  have hconditions : (doc.renameKeys f).conditions =
      doc.conditions.mapError (DocumentError.renameKey f) := by
    rw [conditions, conditions, hcount]
    refine mapM_referenced_renameKeys hnamed hinj _ DocumentFilter.key (fun _ => rfl) ?_
      conditionFor (fun _ _ => rfl)
    intro filter hfilter
    exact List.mem_append_right _ (List.mem_append_left _ (List.mem_map_of_mem hfilter))
  have hcolumns : (doc.renameKeys f).columns =
      doc.columns.mapError (DocumentError.renameKey f) := by
    rw [columns, columns, hlength]
    refine mapM_referenced_renameKeys hnamed hinj _ DocumentReturn.key (fun _ => rfl) ?_
      columnFor (fun _ _ => rfl)
    intro item hitem
    exact List.mem_append_right _ (List.mem_append_right _ (List.mem_map_of_mem hitem))
  simp only [toQuery_eq, Logged.mapError_bind, pattern_renameKeys hnamed hinj, hconditions, hcolumns,
    Logged.mapError_ofExcept]
  rfl

end

end QueryDocument

/-- **Documents that differ in their keys alone** are compiled alike, if their variables are not
named: with the same text and the same parameters, or with the same error.  Only the error about a
reference to a key that there is not names the other key. -/
theorem compile_renameKeys {doc : QueryDocument} (hnamed : doc.namedVariables = false)
    {f : String → String} (hinj : ∀ a ∈ doc.keys, ∀ b ∈ doc.keys, f a = f b → a = b)
    (config : BuildConfig) :
    (doc.renameKeys f).compile config =
      (doc.compile config).mapError (Sum.map (DocumentError.renameKey f) id) := by
  have hbuild : ∀ q : Query,
      (((Construct.ofQuery q).build config).mapError (.inr : BuildError → DocumentError ⊕ _)).mapError
        (Sum.map (DocumentError.renameKey f) id) =
      ((Construct.ofQuery q).build config).mapError .inr := by
    intro q
    simp only [Logged.mapError]
    cases ((Construct.ofQuery q).build config).result <;> rfl
  have hquery : (doc.toQuery.mapError (DocumentError.renameKey f)).mapError
      (.inl : DocumentError → _ ⊕ BuildError) =
      (doc.toQuery.mapError .inl).mapError (Sum.map (DocumentError.renameKey f) id) := by
    simp only [Logged.mapError]
    cases doc.toQuery.result <;> rfl
  simp only [QueryDocument.compile, QueryDocument.toQuery_renameKeys hnamed hinj, hquery,
    Logged.mapError_bind, hbuild]

/-- A loop whose relationship has a key that looks like a generated name, and what is returned of the
given keys. -/
def selfRelated (returned : List String) : QueryDocument where
  optional := false
  namedVariables := false
  elements := [.node ⟨some "a", ["Person"], []⟩,
    .relationship ⟨some "this0", some "KNOWS", .right, none, []⟩, .node ⟨some "a", [], []⟩]
  filters := [⟨"this0", "since", .integer 7⟩]
  returns := returned.map fun key => ⟨key, none, none⟩

/-- The two keys exchanged, and another one in the place of any other. -/
def exchanged (key : String) : String :=
  if key = "a" then "this0" else if key = "this0" then "a" else "`" ++ key

/-- The text stays the same, and the error is about the other key. -/
theorem compile_selfRelated_renameKeys :
    (∀ a ∈ (selfRelated ["a", "this0"]).keys, ∀ b ∈ (selfRelated ["a", "this0"]).keys,
        exchanged a = exchanged b → a = b) ∧
      (∀ a ∈ (selfRelated ["a", "b"]).keys, ∀ b ∈ (selfRelated ["a", "b"]).keys,
        exchanged a = exchanged b → a = b) ∧
      ((selfRelated ["a", "this0"]).compile .standard).result = .ok
        ⟨"MATCH (this0:Person)-[this1:KNOWS]->(this0)\nWHERE this1.since = $param0\n" ++
          "RETURN this0, this1", [("param0", .integer 7)]⟩ ∧
      ((selfRelated ["a", "b"]).compile .standard).result = .error (.inl (.unknownVariable "b")) ∧
      ((selfRelated ["a", "this0"]).renameKeys exchanged).compile .standard =
        ((selfRelated ["a", "this0"]).compile .standard).mapError
          (Sum.map (DocumentError.renameKey exchanged) id) ∧
      ((selfRelated ["a", "b"]).renameKeys exchanged).compile .standard =
        ((selfRelated ["a", "b"]).compile .standard).mapError
          (Sum.map (DocumentError.renameKey exchanged) id) :=
  have hsound : ∀ a ∈ (selfRelated ["a", "this0"]).keys, ∀ b ∈ (selfRelated ["a", "this0"]).keys,
      exchanged a = exchanged b → a = b := by decide
  have hunsound : ∀ a ∈ (selfRelated ["a", "b"]).keys, ∀ b ∈ (selfRelated ["a", "b"]).keys,
      exchanged a = exchanged b → a = b := by decide
  ⟨hsound, hunsound, rfl, rfl, compile_renameKeys rfl hsound .standard,
    compile_renameKeys rfl hunsound .standard⟩

end CypherQuery
