/-
**From query documents to queries.**

A document becomes a clause that matches its pattern under all its conditions, and a clause that
returns its items.  The elements are gone through from left to right, with a table of the keys that
came up so far: an element without a key has a variable of its own, and a key gets its variable from
the first element that has it.  Filters and return items look their keys up in the table behind the
last element.  Every value becomes a parameter of its own, and every name of a return item a
variable of its own.

Identities are numbered from left to right: variables by the element that introduces them, then
the names of return items; parameters by the property or the filter that they belong to.

Main definitions:

* `CypherQuery.DocumentScope` — **the table of the keys**;
* `CypherQuery.DocumentScope.variableFor`, `CypherQuery.DocumentScope.lookup` — the variable of an
  element, and that of a key to which something refers;
* `CypherQuery.DocumentScope.pattern` — the pattern, **or its first fault**;
* `CypherQuery.QueryDocument.toQuery` — **the query**.
-/

import CypherQuery.Build
import CypherQuery.Document.Basic

set_option autoImplicit false

namespace CypherQuery

/-! ### Lengths and values -/

/-- What a length of a document stands for; the only text with a meaning is a star. -/
def DocumentLength.toPathLength : DocumentLength → Except DocumentError PathLength
  | .exactly hops => .ok (.fixed hops)
  | .between least greatest => .ok (.between least greatest)
  | .text s => if Blank.trim s = "*" then .ok .any else .error (.invalidLength s)

/-- A parameter without a name. -/
def valueParameter (id : Nat) (value : Value) : Expression := .placeholder ⟨id, none, value⟩

/-- The properties of an element, as parameters numbered from `first` on. -/
def propertyParameters (first : Nat) (properties : Dictionary Value) :
    List (String × Expression) :=
  (properties.zipIdx first).map fun e => (e.1.1, valueParameter e.2 e.1.2)

/-! ### Elements, from their variables

The parameters of an element are numbered from `first` on. -/

/-- A node of the pattern. -/
def DocumentNode.pattern (n : DocumentNode) (v : Variable) (first : Nat) : NodePattern :=
  ((NodePattern.ofVariable v).withLabels n.labels).withProperties
    (propertyParameters first n.properties)

namespace DocumentRelationship

/-- A relationship of the pattern, before its length is set. -/
def base (r : DocumentRelationship) (v : Variable) (first : Nat) : RelationshipPattern :=
  let rel := RelationshipPattern.ofVariable v
  let rel := (rel.withDirection r.direction).withProperties (propertyParameters first r.properties)
  match r.relationType with
  | some relationType => rel.withType relationType
  | none => rel

/-- A relationship of the pattern, **if its length may be used**. -/
def pattern (r : DocumentRelationship) (v : Variable) (first : Nat) :
    Logged DocumentError RelationshipPattern :=
  let rel := r.base v first
  match r.length with
  | none => .pure rel
  | some length =>
      match length.toPathLength with
      | .ok length => (rel.withLength length).mapError .build
      | .error e => .fail e

end DocumentRelationship

/-! ### The table of the keys -/

/-- **The keys of a document and their variables**, as far as the elements have been gone
through. -/
structure DocumentScope where
  /-- Whether the keys become the names of the variables. -/
  namedVariables : Bool
  /-- The variable of each key that came up. -/
  table : Dictionary Variable

namespace DocumentScope

/-- No key came up yet. -/
def empty (namedVariables : Bool) : DocumentScope := ⟨namedVariables, []⟩

/-- **The variable of an element.**  If it is a new one, it has the given number and kind: without a
key it always is, and with a key if that did not come up before; then it is the variable of the key
from now on. -/
def variableFor (scope : DocumentScope) (id : Nat) (kind : VariableKind) :
    Option String → Variable × DocumentScope
  | none => (⟨id, kind, none⟩, scope)
  | some key =>
      match scope.table.get? key with
      | some v => (v, scope)
      | none =>
          let v : Variable := ⟨id, kind, if scope.namedVariables then some key else none⟩
          (v, { scope with table := scope.table.insert key v })

/-- The variable of a key to which something refers. -/
def lookup (scope : DocumentScope) (key : String) : Except DocumentError Variable :=
  match scope.table.get? key with
  | some v => .ok v
  | none => .error (.unknownVariable key)

/-! ### The pattern -/

/-- A node of the pattern. -/
def node (scope : DocumentScope) (index first : Nat) (n : DocumentNode) :
    NodePattern × DocumentScope :=
  let (v, scope) := scope.variableFor index .node n.key
  (n.pattern v first, scope)

/-- A relationship of the pattern. -/
def relationship (scope : DocumentScope) (index first : Nat) (r : DocumentRelationship) :
    Logged DocumentError (RelationshipPattern × DocumentScope) := do
  let (v, scope) := scope.variableFor index .relationship r.key
  let rel ← r.pattern v first
  return (rel, scope)

/-- A pattern, continued by the elements from an index on. -/
def extend (scope : DocumentScope) (p : Pattern) (index first : Nat) :
    List DocumentElement → Logged DocumentError (Pattern × DocumentScope)
  | [] => .pure (p, scope)
  | .node _ :: _ => .fail (.unexpectedElement index .relationship)
  | .relationship r :: rest => do
      let (rel, scope) ← scope.relationship index first r
      match rest with
      | [] => .fail (.build .incompletePattern)
      | .relationship _ :: _ => .fail (.unexpectedElement (index + 1) .node)
      | .node n :: rest =>
          let first := first + r.properties.length
          let (node, scope) := scope.node (index + 1) first n
          extend scope ((p.related rel).closedBy node) (index + 2) (first + n.properties.length)
            rest

/-- **The pattern of the elements**, or its first fault. -/
def pattern (scope : DocumentScope) :
    List DocumentElement → Logged DocumentError (Pattern × DocumentScope)
  | [] => .fail .emptyPattern
  | .relationship _ :: _ => .fail (.unexpectedElement 0 .node)
  | .node n :: rest =>
      let (node, scope) := scope.node 0 0 n
      scope.extend (.ofNode node) 1 n.properties.length rest

end DocumentScope

/-! ### Conditions and columns -/

namespace QueryDocument

/-- The condition of a filter, whose parameter has the given number, from the variable to which it
refers. -/
def conditionFor (entry : DocumentFilter × Nat) (v : Variable) : Expression :=
  .equals (.propertyOf v entry.1.property) (valueParameter entry.2 entry.1.value)

/-- What a return item returns, from the variable to which it refers. -/
def returned (item : DocumentReturn) (v : Variable) : Expression :=
  match item.property with
  | some property => .propertyOf v property
  | none => .reference v

/-- The column of a return item, whose name has the given number, from the variable to which it
refers. -/
def columnFor (entry : DocumentReturn × Nat) (v : Variable) : Column :=
  match entry.1.name with
  | some name => .aliased (returned entry.1 v) ⟨entry.2, .value, some name⟩
  | none => .plain (returned entry.1 v)

end QueryDocument

namespace DocumentScope

/-- The conditions of filters, whose parameters are numbered from `first` on. -/
def conditions (scope : DocumentScope) (first : Nat) (filters : List DocumentFilter) :
    Except DocumentError (List Expression) :=
  (filters.zipIdx first).mapM fun entry =>
    (scope.lookup entry.1.key).map (QueryDocument.conditionFor entry)

/-- The columns of return items, whose names are numbered from `first` on. -/
def columns (scope : DocumentScope) (first : Nat) (items : List DocumentReturn) :
    Except DocumentError (List Column) :=
  (items.zipIdx first).mapM fun entry =>
    (scope.lookup entry.1.key).map (QueryDocument.columnFor entry)

end DocumentScope

/-! ### The query -/

namespace QueryDocument

/-- The number of properties of some elements. -/
def propertyCount : List DocumentElement → Nat
  | [] => 0
  | e :: rest => e.properties.length + propertyCount rest

/-- The clause that matches a pattern under conditions. -/
def matchClause (doc : QueryDocument) (p : Pattern) (conditions : List Expression) : MatchClause :=
  conditions.foldl MatchClause.withCondition
    { MatchClause.ofPattern p with optional := doc.optional }

/-- **The query of a document**, or the first fault of the document. -/
def toQuery (doc : QueryDocument) : Logged DocumentError Query := do
  let (p, scope) ← (DocumentScope.empty doc.namedVariables).pattern doc.elements
  let conditions ← Logged.ofExcept (scope.conditions (propertyCount doc.elements) doc.filters)
  let columns ← Logged.ofExcept (scope.columns doc.elements.length doc.returns)
  return ⟨[.matching (doc.matchClause p conditions), .returning (.ofColumns columns)]⟩

end QueryDocument

end CypherQuery
