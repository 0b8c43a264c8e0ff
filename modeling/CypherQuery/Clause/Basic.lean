/-
**Clauses and queries.**

Main definitions:

* `CypherQuery.Column` — what a projection lists;
* `CypherQuery.MatchClause`, `CypherQuery.WithClause`, `CypherQuery.ReturnClause` — the clauses
  with several parts;
* `CypherQuery.Clause`, `CypherQuery.Query` — **clauses, and queries as lists of them**.
-/

import CypherQuery.Pattern.Basic

set_option autoImplicit false

namespace CypherQuery

/-! ### Columns -/

/-- What a projection lists: an expression, which may be given a name. -/
inductive Column where
  /-- An expression. -/
  | plain (e : Expression)
  /-- An expression with a name; the name is a variable of its own. -/
  | aliased (e : Expression) (name : Variable)
  deriving Repr

namespace Column

/-- The name of a column, if it was given one. -/
def alias? : Column → Option Variable
  | .plain _ => none
  | .aliased _ name => some name

/-- Comparison of columns. -/
def same : Column → Column → Bool
  | .plain a, .plain b => a.same b
  | .aliased a n, .aliased b m => a.same b && n == m
  | _, _ => false

end Column

/-! ### The parts of clauses -/

/-- Comparison of two things that may be absent. -/
def sameOption {α : Type} (same : α → α → Bool) : Option α → Option α → Bool
  | none, none => true
  | some a, some b => same a b
  | _, _ => false

/-- The direction in which rows are sorted. -/
inductive SortOrder where
  /-- Smaller values first. -/
  | ascending
  /-- Larger values first. -/
  | descending
  deriving DecidableEq, Repr, Inhabited

/-- How a direction is written. -/
def SortOrder.keyword : SortOrder → String
  | .ascending => "ASC"
  | .descending => "DESC"

/-- An expression by which rows are sorted. -/
structure SortItem where
  /-- The expression. -/
  expression : Expression
  /-- The direction. -/
  order : SortOrder
  deriving Repr

/-- Comparison of sort items. -/
def SortItem.same (a b : SortItem) : Bool := a.expression.same b.expression && a.order == b.order

/-- The assignment of a property. -/
structure Assignment where
  /-- Whose property is assigned. -/
  base : Expression
  /-- The key of the property. -/
  key : String
  /-- Its new value. -/
  value : Expression
  deriving Repr

namespace Assignment

/-- The property that is assigned. -/
def target (a : Assignment) : Expression := .property a.base a.key

/-- Comparison of assignments. -/
def same (a b : Assignment) : Bool := a.target.same b.target && a.value.same b.value

end Assignment

/-! ### Clauses with several parts -/

/-- A clause that matches patterns. -/
structure MatchClause where
  /-- Whether rows without a match are kept. -/
  optional : Bool
  /-- The patterns. -/
  patterns : List Pattern
  /-- The condition on the rows. -/
  condition : Option Expression
  deriving Repr

namespace MatchClause

/-- The clause of a single pattern. -/
def ofPattern (p : Pattern) : MatchClause := ⟨false, [p], none⟩

/-- The clause with one more condition: **all conditions have to hold**. -/
def withCondition (c : MatchClause) (condition : Expression) : MatchClause :=
  { c with
    condition := match c.condition with
      | some earlier => some (.and earlier condition)
      | none => some condition }

/-- Comparison of these clauses. -/
def same (a b : MatchClause) : Bool :=
  a.optional == b.optional && a.patterns.isEqv b.patterns Pattern.same &&
    sameOption Expression.same a.condition b.condition

end MatchClause

/-- A clause that hands columns on to the next clause. -/
structure WithClause where
  /-- Whether equal rows are handed on once. -/
  distinct : Bool
  /-- The columns; all of them if none is given. -/
  columns : List Column
  /-- The condition on the rows. -/
  condition : Option Expression
  deriving Repr

namespace WithClause

/-- The clause with another condition, in place of the one before. -/
def withCondition (c : WithClause) (condition : Expression) : WithClause :=
  { c with condition := some condition }

/-- Comparison of these clauses. -/
def same (a b : WithClause) : Bool :=
  a.distinct == b.distinct && a.columns.isEqv b.columns Column.same &&
    sameOption Expression.same a.condition b.condition

end WithClause

/-- A clause that returns columns. -/
structure ReturnClause where
  /-- Whether equal rows are returned once. -/
  distinct : Bool
  /-- The columns; all of them if none is given. -/
  columns : List Column
  /-- By what the rows are sorted. -/
  sortItems : List SortItem
  /-- How many rows are left out at the start. -/
  skipped : Option Expression
  /-- How many rows are returned at most. -/
  limit : Option Expression
  deriving Repr

namespace ReturnClause

/-- The clause of the given columns. -/
def ofColumns (columns : List Column) : ReturnClause := ⟨false, columns, [], none, none⟩

/-- Comparison of these clauses. -/
def same (a b : ReturnClause) : Bool :=
  a.distinct == b.distinct && a.columns.isEqv b.columns Column.same &&
    a.sortItems.isEqv b.sortItems SortItem.same && sameOption Expression.same a.skipped b.skipped &&
    sameOption Expression.same a.limit b.limit

end ReturnClause

/-! ### Clauses and queries -/

/-- **The clauses of a query.** -/
inductive Clause where
  /-- Matches patterns. -/
  | matching (c : MatchClause)
  /-- Creates what patterns say. -/
  | creating (patterns : List Pattern)
  /-- Creates what a pattern says unless it is there. -/
  | merging (pattern : Pattern)
  /-- Hands columns on. -/
  | handingOn (c : WithClause)
  /-- Makes a row of every item of a list. -/
  | unwinding (items : Expression) (name : Variable)
  /-- Assigns properties. -/
  | setting (assignments : List Assignment)
  /-- Deletes nodes and relationships; if detached, nodes with their relationships. -/
  | deleting (detached : Bool) (items : List Expression)
  /-- Returns columns. -/
  | returning (c : ReturnClause)
  deriving Repr

/-- Comparison of clauses. -/
def Clause.same : Clause → Clause → Bool
  | .matching a, .matching b => a.same b
  | .creating ps, .creating qs => ps.isEqv qs Pattern.same
  | .merging p, .merging q => p.same q
  | .handingOn a, .handingOn b => a.same b
  | .unwinding e v, .unwinding f w => e.same f && v == w
  | .setting as, .setting bs => as.isEqv bs Assignment.same
  | .deleting d as, .deleting d' bs => d == d' && as.isEqv bs Expression.same
  | .returning a, .returning b => a.same b
  | _, _ => false

/-- **A query**: clauses, one after the other. -/
structure Query where
  /-- The clauses. -/
  clauses : List Clause
  deriving Repr

/-- Comparison of queries. -/
def Query.same (a b : Query) : Bool := a.clauses.isEqv b.clauses Clause.same

end CypherQuery
