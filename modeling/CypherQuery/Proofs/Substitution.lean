/-
**Other parameters in the place of those of a construct.**

A function on parameters turns a construct into one of the same shape, with other parameters at the
same places.  That is a renaming that keeps all variables, so that the template of the new construct
is that of the old one with other parameters.

Main definitions:

* `CypherQuery.Construct.mapParameters` — **a construct with other parameters**;
* `CypherQuery.Piece.mapParameter` — a piece of a template with another parameter.

Main results:

* `CypherQuery.Construct.mapParameters_eq_rename` — other parameters are a renaming;
* `CypherQuery.Construct.template_mapParameters` — **the template of a construct with other
  parameters**.
-/

import CypherQuery.Proofs.Renaming

set_option autoImplicit false

namespace CypherQuery

/-! ### Constructs with other parameters -/

section

variable (f : Parameter → Parameter)

namespace Expression

mutual

/-- **An expression with other parameters.** -/
def mapParameters : Expression → Expression
  | .placeholder p => .placeholder (f p)
  | .property base key => .property (mapParameters base) key
  | .application op operands => .application op (mapParametersAll operands)
  | .call function arguments => .call function (mapParametersAll arguments)
  | .list items => .list (mapParametersAll items)
  | .map entries => .map (mapParametersEntries entries)
  | .literal l => .literal l
  | .reference v => .reference v
  | .identityOf v => .identityOf v
  | .labelsOf v => .labelsOf v
  | .raw text => .raw text

/-- Expressions with other parameters. -/
def mapParametersAll : List Expression → List Expression
  | [] => []
  | e :: rest => mapParameters e :: mapParametersAll rest

/-- Entries with other parameters. -/
def mapParametersEntries : List (String × Expression) → List (String × Expression)
  | [] => []
  | (key, e) :: rest => (key, mapParameters e) :: mapParametersEntries rest

end

end Expression

def NodePattern.mapParameters (node : NodePattern) : NodePattern :=
  { node with properties := Expression.mapParametersEntries f node.properties }

def RelationshipPattern.mapParameters (rel : RelationshipPattern) : RelationshipPattern :=
  { rel with properties := Expression.mapParametersEntries f rel.properties }

def Hop.mapParameters (hop : Hop) : Hop :=
  ⟨hop.relationship.mapParameters f, hop.node.mapParameters f⟩

def Pattern.mapParameters (p : Pattern) : Pattern :=
  ⟨p.start.mapParameters f, p.hops.map (Hop.mapParameters f)⟩

def OpenPattern.mapParameters (p : OpenPattern) : OpenPattern :=
  ⟨p.pattern.mapParameters f, p.relationship.mapParameters f⟩

def Column.mapParameters : Column → Column
  | .plain e => .plain (e.mapParameters f)
  | .aliased e name => .aliased (e.mapParameters f) name

def SortItem.mapParameters (item : SortItem) : SortItem :=
  { item with expression := item.expression.mapParameters f }

def Assignment.mapParameters (a : Assignment) : Assignment :=
  ⟨a.base.mapParameters f, a.key, a.value.mapParameters f⟩

/-- A clause with other parameters. -/
def Clause.mapParameters : Clause → Clause
  | .matching c =>
      .matching ⟨c.optional, c.patterns.map (Pattern.mapParameters f),
        c.condition.map (Expression.mapParameters f)⟩
  | .creating patterns => .creating (patterns.map (Pattern.mapParameters f))
  | .merging pattern => .merging (pattern.mapParameters f)
  | .handingOn c =>
      .handingOn ⟨c.distinct, c.columns.map (Column.mapParameters f),
        c.condition.map (Expression.mapParameters f)⟩
  | .unwinding items name => .unwinding (items.mapParameters f) name
  | .setting assignments => .setting (assignments.map (Assignment.mapParameters f))
  | .deleting detached items => .deleting detached (items.map (Expression.mapParameters f))
  | .returning c =>
      .returning ⟨c.distinct, c.columns.map (Column.mapParameters f),
        c.sortItems.map (SortItem.mapParameters f), c.skipped.map (Expression.mapParameters f),
        c.limit.map (Expression.mapParameters f)⟩

def Query.mapParameters (q : Query) : Query := ⟨q.clauses.map (Clause.mapParameters f)⟩

/-- **A construct with other parameters**: the shape, the variables and all texts are kept. -/
def Construct.mapParameters : Construct → Construct
  | .ofExpression e => .ofExpression (e.mapParameters f)
  | .ofVariable v => .ofVariable v
  | .ofParameter p => .ofParameter (f p)
  | .ofPattern p => .ofPattern (p.mapParameters f)
  | .ofOpenPattern p => .ofOpenPattern (p.mapParameters f)
  | .ofColumn c => .ofColumn (c.mapParameters f)
  | .ofClause c => .ofClause (c.mapParameters f)
  | .ofQuery q => .ofQuery (q.mapParameters f)

/-- A piece of a template with another parameter. -/
def Piece.mapParameter : Piece → Piece
  | .parameterName p => .parameterName (f p)
  | piece => piece

/-- A template with other parameters. -/
def Template.mapParameters (t : Template) : Template := t.map (Piece.mapParameter f)

end

variable (f : Parameter → Parameter)

/-! ### Other parameters as a renaming -/

/-- The renaming that keeps all variables. -/
def Renaming.parameters : Renaming := ⟨id, f⟩

theorem Piece.mapParameter_eq_rename (piece : Piece) :
    piece.mapParameter f = piece.rename (.parameters f) := by
  cases piece <;> rfl

namespace Template

@[simp] theorem mapParameters_cons (piece : Piece) (t : Template) :
    mapParameters f (piece :: t) = piece.mapParameter f :: mapParameters f t := rfl

theorem mapParameters_eq_rename (t : Template) :
    t.mapParameters f = t.rename (.parameters f) :=
  List.map_congr_left fun piece _ => piece.mapParameter_eq_rename f

end Template

namespace Expression

theorem mapParametersAll_eq_map (es : List Expression) :
    mapParametersAll f es = es.map (mapParameters f) := by
  induction es with
  | nil => rfl
  | cons e rest ih => simp [mapParametersAll, ih]

theorem mapParametersEntries_eq_map (entries : List (String × Expression)) :
    mapParametersEntries f entries =
      entries.map fun entry => (entry.1, entry.2.mapParameters f) := by
  induction entries with
  | nil => rfl
  | cons entry rest ih => simp [mapParametersEntries, ih]

theorem mapParameters_eq_rename (e : Expression) :
    e.mapParameters f = e.rename (.parameters f) := by
  induction e using Expression.induction with
  | literal l => rfl
  | reference v => rfl
  | placeholder p => rfl
  | property base key ih => simp [mapParameters, rename, ih]
  | application op operands ih =>
      simp only [mapParameters, rename, mapParametersAll_eq_map, renameAll_eq_map]
      exact congrArg _ (List.map_congr_left ih)
  | call function arguments ih =>
      simp only [mapParameters, rename, mapParametersAll_eq_map, renameAll_eq_map]
      exact congrArg _ (List.map_congr_left ih)
  | list items ih =>
      simp only [mapParameters, rename, mapParametersAll_eq_map, renameAll_eq_map]
      exact congrArg _ (List.map_congr_left ih)
  | map entries ih =>
      simp only [mapParameters, rename, mapParametersEntries_eq_map, renameEntries_eq_map]
      refine congrArg _ (List.map_congr_left fun entry hmem => ?_)
      rw [renameEntry, ih entry hmem]
  | identityOf v => rfl
  | labelsOf v => rfl
  | raw text => rfl

theorem mapParametersEntries_eq_rename (entries : List (String × Expression)) :
    mapParametersEntries f entries = renameEntries (.parameters f) entries := by
  simp only [mapParametersEntries_eq_map, renameEntries_eq_map, mapParameters_eq_rename]
  rfl

end Expression

theorem NodePattern.mapParameters_eq_rename (node : NodePattern) :
    node.mapParameters f = node.rename (.parameters f) := by
  rw [mapParameters, Expression.mapParametersEntries_eq_rename]
  rfl

theorem RelationshipPattern.mapParameters_eq_rename (rel : RelationshipPattern) :
    rel.mapParameters f = rel.rename (.parameters f) := by
  rw [mapParameters, Expression.mapParametersEntries_eq_rename]
  rfl

theorem Hop.mapParameters_eq_rename : Hop.mapParameters f = Hop.rename (.parameters f) := by
  funext hop
  rw [mapParameters, RelationshipPattern.mapParameters_eq_rename,
    NodePattern.mapParameters_eq_rename]
  rfl

theorem Pattern.mapParameters_eq_rename :
    Pattern.mapParameters f = Pattern.rename (.parameters f) := by
  funext p
  rw [mapParameters, NodePattern.mapParameters_eq_rename, Hop.mapParameters_eq_rename]
  rfl

theorem Column.mapParameters_eq_rename :
    Column.mapParameters f = Column.rename (.parameters f) := by
  funext c
  cases c <;> simp [mapParameters, rename, Expression.mapParameters_eq_rename, Renaming.parameters]

theorem Clause.mapParameters_eq_rename :
    Clause.mapParameters f = Clause.rename (.parameters f) := by
  have hexpression : Expression.mapParameters f = Expression.rename (.parameters f) :=
    funext fun e => e.mapParameters_eq_rename f
  have hassignment : Assignment.mapParameters f = Assignment.rename (.parameters f) := by
    funext a
    rw [Assignment.mapParameters, hexpression]
    rfl
  have hsortItem : SortItem.mapParameters f = SortItem.rename (.parameters f) := by
    funext item
    rw [SortItem.mapParameters, hexpression]
    rfl
  funext c
  cases c <;>
    simp [mapParameters, rename, hexpression, hassignment, hsortItem,
      Pattern.mapParameters_eq_rename, Column.mapParameters_eq_rename, Renaming.parameters]

namespace Construct

/-- Other parameters in a construct are a renaming that keeps all variables. -/
theorem mapParameters_eq_rename (c : Construct) :
    c.mapParameters f = c.rename (.parameters f) := by
  cases c with
  | ofExpression e => exact congrArg _ (e.mapParameters_eq_rename f)
  | ofVariable v => rfl
  | ofParameter p => rfl
  | ofPattern p => exact congrArg _ (congrFun (Pattern.mapParameters_eq_rename f) p)
  | ofOpenPattern p =>
      rw [mapParameters, OpenPattern.mapParameters, Pattern.mapParameters_eq_rename,
        RelationshipPattern.mapParameters_eq_rename]
      rfl
  | ofColumn c => exact congrArg _ (congrFun (Column.mapParameters_eq_rename f) c)
  | ofClause c => exact congrArg _ (congrFun (Clause.mapParameters_eq_rename f) c)
  | ofQuery q =>
      rw [mapParameters, Query.mapParameters, Clause.mapParameters_eq_rename]
      rfl

/-- **The template of a construct with other parameters.** -/
theorem template_mapParameters (c : Construct) :
    (c.mapParameters f).template = c.template.mapParameters f := by
  have hapart : (Renaming.parameters f).KeepsApart c.occurrences := fun _ _ _ _ h => h
  rw [mapParameters_eq_rename, template_rename _ hapart, Template.mapParameters_eq_rename]

end Construct

end CypherQuery
