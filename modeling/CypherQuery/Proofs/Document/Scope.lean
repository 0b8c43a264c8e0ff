/-
**The variables of a document, without the table of its keys.**

The elements of a document are gone through with a table of the keys that came up so far.  What the
table holds behind some elements is told by these elements alone: every key has the variable that
the first of them with the key introduces.  An element changes the table by its own key and by
nothing else, and a key that came up keeps its variable.  So the variable of an element, and that of
a key to which something refers, can be told from the document as a whole, and so can the pattern,
the conditions and the columns.

Main definitions:

* `CypherQuery.QueryDocument.variableOf?`, `CypherQuery.QueryDocument.variableAt` — the variable of
  a key and that of an element, told from the document;
* `CypherQuery.QueryDocument.pattern`, `CypherQuery.QueryDocument.conditions`,
  `CypherQuery.QueryDocument.columns` — the parts of the query, told from the document;
* `CypherQuery.DocumentScope.run` — the table, taken along some elements;
* `CypherQuery.DocumentScope.IsOf` — **tables that hold what a document says**.

Main results:

* `CypherQuery.DocumentScope.IsOf.variableFor` — what one element does to the table;
* `CypherQuery.DocumentScope.run_empty`, `CypherQuery.DocumentScope.lookup_run_empty` — **the table
  gives every element its variable, and behind the elements every key**;
* `CypherQuery.QueryDocument.toQuery_eq` — **the query without the table**.
-/

import CypherQuery.Document.Query

set_option autoImplicit false

namespace CypherQuery

/-! ### The parts of the query, told from the document -/

namespace QueryDocument

/-- The kind of the variable that an element introduces. -/
def kindOf : ElementSort → VariableKind
  | .node => .node
  | .relationship => .relationship

/-- The variable that an element introduces. -/
def introduced (doc : QueryDocument) (index : Nat) (element : DocumentElement) : Variable :=
  ⟨index, kindOf element.sort, if doc.namedVariables then element.key else none⟩

/-- The variable of a key: the one that the first element with it introduces. -/
def variableOf? (doc : QueryDocument) (key : String) : Option Variable :=
  (doc.elements.zipIdx.find? fun e => e.1.key == some key).map fun e => doc.introduced e.2 e.1

/-- The variable of an element. -/
def variableAt (doc : QueryDocument) (index : Nat) (element : DocumentElement) : Variable :=
  match element.key.bind doc.variableOf? with
  | some v => v
  | none => doc.introduced index element

/-- The variables of the elements, from left to right. -/
def elementVariables (doc : QueryDocument) : List Variable :=
  doc.elements.zipIdx.map fun entry => doc.variableAt entry.2 entry.1

/-- The variable of a key to which something refers. -/
def referenced (doc : QueryDocument) (key : String) : Except DocumentError Variable :=
  match doc.variableOf? key with
  | some v => .ok v
  | none => .error (.unknownVariable key)

/-- The number of the first parameter of the element at an index. -/
def firstParameter (doc : QueryDocument) (index : Nat) : Nat :=
  propertyCount (doc.elements.take index)

/-- A node of the pattern. -/
def nodePattern (doc : QueryDocument) (index : Nat) (n : DocumentNode) : NodePattern :=
  n.pattern (doc.variableAt index (.node n)) (doc.firstParameter index)

/-- A relationship of the pattern. -/
def relationshipPattern (doc : QueryDocument) (index : Nat) (r : DocumentRelationship) :
    Logged DocumentError RelationshipPattern :=
  r.pattern (doc.variableAt index (.relationship r)) (doc.firstParameter index)

/-- The hops of the elements from an index on. -/
def hops (doc : QueryDocument) (index : Nat) :
    List DocumentElement → Logged DocumentError (List Hop)
  | [] => .pure []
  | .node _ :: _ => .fail (.unexpectedElement index .relationship)
  | .relationship r :: rest => do
      let rel ← doc.relationshipPattern index r
      match rest with
      | [] => .fail (.build .incompletePattern)
      | .relationship _ :: _ => .fail (.unexpectedElement (index + 1) .node)
      | .node n :: rest => do
          let more ← hops doc (index + 2) rest
          return ⟨rel, doc.nodePattern (index + 1) n⟩ :: more

/-- **The pattern of a document**, or its first fault. -/
def pattern (doc : QueryDocument) : Logged DocumentError Pattern :=
  match doc.elements with
  | [] => .fail .emptyPattern
  | .relationship _ :: _ => .fail (.unexpectedElement 0 .node)
  | .node n :: rest => do
      let hops ← doc.hops 1 rest
      return ⟨doc.nodePattern 0 n, hops⟩

/-- The conditions of all filters. -/
def conditions (doc : QueryDocument) : Except DocumentError (List Expression) :=
  (doc.filters.zipIdx (propertyCount doc.elements)).mapM fun entry =>
    (doc.referenced entry.1.key).map (conditionFor entry)

/-- The columns of all return items. -/
def columns (doc : QueryDocument) : Except DocumentError (List Column) :=
  (doc.returns.zipIdx doc.elements.length).mapM fun entry =>
    (doc.referenced entry.1.key).map (columnFor entry)

/-! ### The variable of an element -/

variable {doc : QueryDocument} {index : Nat} {element : DocumentElement}

theorem variableAt_of_key {key : String} {v : Variable} (hkey : element.key = some key)
    (hv : doc.variableOf? key = some v) : doc.variableAt index element = v := by
  rw [variableAt, hkey, Option.bind_some, hv]

theorem variableAt_of_key_eq_none (hkey : element.key = none) :
    doc.variableAt index element = doc.introduced index element := by
  rw [variableAt, hkey, Option.bind_none]

/-! ### Leading elements -/

/-- The document with other elements; those before a place, to say what is known there. -/
def withElements (doc : QueryDocument) (elements : List DocumentElement) : QueryDocument :=
  { doc with elements }

variable (doc)

/-- Elements that follow count for a key only if no earlier one has it. -/
theorem variableOf?_append (before after : List DocumentElement) (key : String) :
    (doc.withElements (before ++ after)).variableOf? key =
      ((doc.withElements before).variableOf? key).or
        (((after.zipIdx before.length).find? fun e => e.1.key == some key).map
          fun e => doc.introduced e.2 e.1) := by
  rw [variableOf?, variableOf?, withElements, withElements, List.zipIdx_append, List.find?_append,
    Option.map_or, Nat.zero_add]
  rfl

/-- One more element counts for its key, if no earlier one has it. -/
theorem variableOf?_concat (before : List DocumentElement) (element : DocumentElement)
    (key : String) :
    (doc.withElements (before ++ [element])).variableOf? key =
      ((doc.withElements before).variableOf? key).or
        (if element.key = some key then some (doc.introduced before.length element) else none) := by
  rw [variableOf?_append, List.zipIdx_singleton, List.find?_singleton]
  by_cases hkey : element.key = some key
  · rw [if_pos hkey, if_pos (beq_iff_eq.2 hkey)]
    rfl
  · rw [if_neg hkey, if_neg (mt beq_iff_eq.1 hkey)]
    rfl

/-- An element has the variable that its key has behind it. -/
theorem variableAt_eq_of_concat {before after : List DocumentElement}
    (helements : doc.elements = before ++ element :: after) {key : String} {v : Variable}
    (hkey : element.key = some key)
    (h : (doc.withElements (before ++ [element])).variableOf? key = some v) :
    doc.variableAt before.length element = v := by
  have happend := doc.variableOf?_append (before ++ [element]) after key
  have hwhole : doc.withElements (before ++ [element] ++ after) = doc := by
    rw [List.append_assoc, List.singleton_append, ← helements]
    rfl
  rw [hwhole, h, Option.some_or] at happend
  exact variableAt_of_key hkey happend

theorem propertyCount_append (before after : List DocumentElement) :
    propertyCount (before ++ after) = propertyCount before + propertyCount after := by
  induction before with
  | nil => exact (Nat.zero_add _).symm
  | cons element rest ih => rw [List.cons_append, propertyCount, propertyCount, ih, Nat.add_assoc]

theorem firstParameter_length {before after : List DocumentElement}
    (helements : doc.elements = before ++ after) :
    doc.firstParameter before.length = propertyCount before := by
  rw [firstParameter, helements, List.take_left]

end QueryDocument

/-! ### Tables that hold what a document says -/

namespace DocumentScope

open QueryDocument

/-- **Tables that hold what a document says**: each key with the variable that the first element with
it introduces, and no other key. -/
structure IsOf (scope : DocumentScope) (doc : QueryDocument) : Prop where
  /-- The keys are names if the document says so. -/
  namedVariables_eq : scope.namedVariables = doc.namedVariables
  /-- The keys that came up have their variables. -/
  get?_eq : ∀ key, scope.table.get? key = doc.variableOf? key

theorem isOf_empty (doc : QueryDocument) :
    (empty doc.namedVariables).IsOf (doc.withElements []) :=
  ⟨rfl, fun _ => rfl⟩

variable {scope : DocumentScope} {doc : QueryDocument}

theorem IsOf.lookup_eq (h : scope.IsOf doc) : scope.lookup = doc.referenced := by
  funext key
  cases hv : doc.variableOf? key <;> simp only [lookup, referenced, h.get?_eq, hv]

theorem variableFor_of_get? {id : Nat} {kind : VariableKind} {key : String} {v : Variable}
    (h : scope.table.get? key = some v) :
    scope.variableFor id kind (some key) = (v, scope) := by
  rw [variableFor, h]

theorem variableFor_of_get?_eq_none {id : Nat} {kind : VariableKind} {key : String}
    (h : scope.table.get? key = none) :
    scope.variableFor id kind (some key) =
      let v : Variable := ⟨id, kind, if scope.namedVariables then some key else none⟩
      (v, { scope with table := scope.table.insert key v }) := by
  rw [variableFor, h]

variable {before after : List DocumentElement} {element : DocumentElement}

/-- **What one element does to the table**: it gets the variable that it has in the whole document,
and the table holds what the elements up to this one say. -/
theorem IsOf.variableFor (h : scope.IsOf (doc.withElements before))
    (helements : doc.elements = before ++ element :: after) :
    (scope.variableFor before.length (kindOf element.sort) element.key).1 =
        doc.variableAt before.length element ∧
      (scope.variableFor before.length (kindOf element.sort) element.key).2.IsOf
        (doc.withElements (before ++ [element])) := by
  have hnamed : scope.namedVariables = doc.namedVariables := h.namedVariables_eq
  have hlast : ∀ key, (doc.withElements (before ++ [element])).variableOf? key =
      (scope.table.get? key).or
        (if element.key = some key then some (doc.introduced before.length element) else none) := by
    intro key
    rw [variableOf?_concat, h.get?_eq]
  cases hkey : element.key with
  | none =>
      refine ⟨?_, hnamed, fun key => ?_⟩
      · rw [variableAt_of_key_eq_none hkey, introduced, hkey, ite_self]
        rfl
      · rw [hlast, hkey, if_neg (by simp)]
        exact (Option.or_none).symm
  | some key =>
      simp only [hkey, Option.some.injEq] at hlast
      cases hv : scope.table.get? key with
      | some v =>
          rw [variableFor_of_get? hv]
          refine ⟨(doc.variableAt_eq_of_concat helements hkey ?_).symm, hnamed, fun key' => ?_⟩
          · rw [hlast, hv, Option.some_or]
          · by_cases hsame : key = key'
            · rw [hlast, ← hsame, hv, Option.some_or]
            · rw [hlast, if_neg hsame, Option.or_none]
      | none =>
          have hv' : (⟨before.length, kindOf element.sort,
              if scope.namedVariables then some key else none⟩ : Variable) =
                doc.introduced before.length element := by
            rw [introduced, hnamed, hkey]
          rw [variableFor_of_get?_eq_none hv, hv']
          refine ⟨(doc.variableAt_eq_of_concat helements hkey ?_).symm, hnamed, fun key' => ?_⟩
          · rw [hlast, hv, Option.none_or, if_pos rfl]
          · by_cases hsame : key = key'
            · rw [hlast, ← hsame, hv, Option.none_or, if_pos rfl]
              exact Dictionary.get?_insert_self _ _ _
            · rw [hlast, if_neg hsame, Option.or_none]
              exact Dictionary.get?_insert_of_ne _ hsame _

/-! ### The table, taken along the elements -/

/-- The variables of some elements, of which the first has the given index, and the table behind
them. -/
def run (scope : DocumentScope) (index : Nat) :
    List DocumentElement → List Variable × DocumentScope
  | [] => ([], scope)
  | element :: rest =>
      let (v, scope) := scope.variableFor index (kindOf element.sort) element.key
      let (vs, scope) := scope.run (index + 1) rest
      (v :: vs, scope)

/-- **The table, taken along the elements**, gives each of them the variable that it has in the whole
document, and holds in the end what the whole document says. -/
theorem IsOf.run (elements : List DocumentElement) : ∀ {before : List DocumentElement}
    {scope : DocumentScope}, scope.IsOf (doc.withElements before) →
    doc.elements = before ++ elements →
    (scope.run before.length elements).1 =
        (elements.zipIdx before.length).map (fun entry => doc.variableAt entry.2 entry.1) ∧
      (scope.run before.length elements).2.IsOf doc := by
  induction elements with
  | nil =>
      intro before scope h helements
      rw [List.append_nil] at helements
      rw [← helements] at h
      exact ⟨rfl, h⟩
  | cons element rest ih =>
      intro before scope h helements
      obtain ⟨hfirst, hscope⟩ := h.variableFor helements
      have hrest := ih hscope (by simp [helements])
      rw [List.length_append, List.length_singleton] at hrest
      refine ⟨?_, hrest.2⟩
      rw [List.zipIdx_cons, List.map_cons, ← hfirst, ← hrest.1]
      rfl

/-- **The table gives every element its variable.** -/
theorem run_empty (doc : QueryDocument) :
    ((empty doc.namedVariables).run 0 doc.elements).1 = doc.elementVariables :=
  ((isOf_empty doc).run doc.elements rfl).1

/-- **Behind the elements, the table gives every key its variable.** -/
theorem lookup_run_empty (doc : QueryDocument) :
    ((empty doc.namedVariables).run 0 doc.elements).2.lookup = doc.referenced :=
  ((isOf_empty doc).run doc.elements rfl).2.lookup_eq

/-! ### The query without the table -/

/-- The table behind a relationship and the node at its end. -/
theorem run_hop (scope : DocumentScope) (index : Nat) (r : DocumentRelationship) (n : DocumentNode)
    (rest : List DocumentElement) :
    (scope.run index (.relationship r :: .node n :: rest)).2 =
      (((scope.variableFor index .relationship r.key).2.variableFor (index + 1) .node n.key).2.run
        (index + 2) rest).2 :=
  rfl

/-- A node, from its variable in the whole document. -/
theorem IsOf.node_eq {n : DocumentNode} (h : scope.IsOf (doc.withElements before))
    (helements : doc.elements = before ++ .node n :: after) :
    scope.node before.length (propertyCount before) n =
      (doc.nodePattern before.length n, (scope.variableFor before.length .node n.key).2) := by
  have hv := (h.variableFor helements).1
  rw [node, nodePattern, ← hv, doc.firstParameter_length helements]
  rfl

/-- A relationship, from its variable in the whole document. -/
theorem IsOf.relationship_eq {r : DocumentRelationship} (h : scope.IsOf (doc.withElements before))
    (helements : doc.elements = before ++ .relationship r :: after) :
    scope.relationship before.length (propertyCount before) r =
      doc.relationshipPattern before.length r >>= fun rel =>
        pure (rel, (scope.variableFor before.length .relationship r.key).2) := by
  have hv := (h.variableFor helements).1
  rw [relationship, relationshipPattern, ← hv, doc.firstParameter_length helements]
  rfl

/-- **A pattern, continued by elements**, has their hops in addition, and the table is the one behind
them. -/
theorem IsOf.extend_eq (index : Nat) (elements : List DocumentElement) :
    ∀ {before : List DocumentElement} {scope : DocumentScope} (p : Pattern),
    index = before.length → scope.IsOf (doc.withElements before) →
    doc.elements = before ++ elements →
    scope.extend p index (propertyCount before) elements =
      doc.hops index elements >>= fun hops =>
        pure ({ p with hops := p.hops ++ hops }, (scope.run index elements).2) := by
  induction index, elements using QueryDocument.hops.induct with
  | case1 index =>
      intro before scope p _ _ _
      rw [extend, hops]
      change Logged.pure (p, scope) = Logged.pure ({ p with hops := p.hops ++ [] }, scope)
      rw [List.append_nil]
  | case2 index n rest => intro before scope p _ _ _; rfl
  | case3 index r rest ih =>
      intro before scope p hindex h helements
      subst hindex
      have hscope : (scope.variableFor before.length .relationship r.key).2.IsOf
          (doc.withElements (before ++ [.relationship r])) := (h.variableFor helements).2
      rw [extend, hops, h.relationship_eq helements, bind_assoc, bind_assoc]
      refine congrArg _ (funext fun rel => ?_)
      rw [pure_bind]
      cases rest with
      | nil => rfl
      | cons element rest =>
          cases element with
          | relationship r' => rfl
          | node n =>
              have hsplit : doc.elements = (before ++ [.relationship r]) ++ .node n :: rest := by
                simp [helements]
              have hfirst : propertyCount (before ++ [.relationship r]) =
                  propertyCount before + r.properties.length := propertyCount_append _ _
              have hfirst' : propertyCount (before ++ [.relationship r] ++ [.node n]) =
                  propertyCount (before ++ [.relationship r]) + n.properties.length :=
                propertyCount_append _ _
              rw [run_hop]
              generalize (scope.variableFor before.length .relationship r.key).2 = scope'
                at hscope ⊢
              have hnode := hscope.node_eq hsplit
              have hmore := ih ((p.related rel).closedBy (doc.nodePattern (before.length + 1) n))
                (by simp) (hscope.variableFor hsplit).2 (by simp [helements])
              rw [List.length_append, List.length_singleton, hfirst] at hnode
              rw [List.length_append, List.length_singleton, hfirst', hfirst] at hmore
              dsimp only
              rw [hnode, bind_assoc]
              refine hmore.trans (congrArg _ (funext fun more => ?_))
              rw [pure_bind]
              exact congrArg (fun hops => pure (Pattern.mk p.start hops, _))
                (List.append_assoc p.hops [_] more)

/-- **The pattern without the table**, and the table behind it. -/
theorem pattern_empty (doc : QueryDocument) :
    (empty doc.namedVariables).pattern doc.elements =
      doc.pattern >>= fun p => pure (p, ((empty doc.namedVariables).run 0 doc.elements).2) := by
  have hempty := isOf_empty doc
  unfold QueryDocument.pattern
  cases helements : doc.elements with
  | nil => rfl
  | cons element rest =>
      cases element with
      | relationship r => rfl
      | node n =>
          have hnode : (empty doc.namedVariables).node 0 0 n = (doc.nodePattern 0 n, _) :=
            hempty.node_eq helements
          have hrest := (hempty.variableFor helements).2.extend_eq 1 rest
            (.ofNode (doc.nodePattern 0 n)) rfl helements
          rw [pattern, hnode, bind_assoc]
          exact hrest.trans (congrArg _ (funext fun hops => (pure_bind _ _).symm))

end DocumentScope

namespace QueryDocument

/-- **The query of a document, without the table of its keys.** -/
theorem toQuery_eq (doc : QueryDocument) :
    doc.toQuery = doc.pattern >>= fun p =>
      Logged.ofExcept doc.conditions >>= fun conditions =>
        Logged.ofExcept doc.columns >>= fun columns =>
          pure ⟨[.matching (doc.matchClause p conditions), .returning (.ofColumns columns)]⟩ := by
  rw [toQuery, DocumentScope.pattern_empty, bind_assoc]
  refine congrArg _ (funext fun p => ?_)
  rw [pure_bind]
  dsimp only
  rw [DocumentScope.conditions, DocumentScope.columns, DocumentScope.lookup_run_empty]
  rfl

end QueryDocument

end CypherQuery
