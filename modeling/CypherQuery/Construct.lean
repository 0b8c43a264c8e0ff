/-
**Everything that can be written.**

Main definitions:

* `CypherQuery.Construct` — the constructs that a build can start from;
* `CypherQuery.Construct.render` — **the text of a construct**;
* `CypherQuery.Construct.same` — comparison of constructs.
-/

import CypherQuery.Clause.Rendering

set_option autoImplicit false

namespace CypherQuery

/-- What a build can start from. -/
inductive Construct where
  /-- An expression. -/
  | ofExpression (e : Expression)
  /-- A variable. -/
  | ofVariable (v : Variable)
  /-- A parameter. -/
  | ofParameter (p : Parameter)
  /-- A pattern. -/
  | ofPattern (p : Pattern)
  /-- A pattern that ends on a relationship. -/
  | ofOpenPattern (p : OpenPattern)
  /-- A column. -/
  | ofColumn (c : Column)
  /-- A clause. -/
  | ofClause (c : Clause)
  /-- A query. -/
  | ofQuery (q : Query)
  deriving Repr

namespace Construct

/-- **The text of a construct.** -/
def render : Construct → BuildM String
  | .ofExpression e => e.render
  | .ofVariable v => v.render
  | .ofParameter p => p.render
  | .ofPattern p => p.render
  | .ofOpenPattern p => p.render
  | .ofColumn c => c.render
  | .ofClause c => c.render
  | .ofQuery q => q.render

/-- **Comparison of constructs**: identities by identity, doubles as numbers, all else to the
letter and in order. -/
def same : Construct → Construct → Bool
  | .ofExpression a, .ofExpression b => a.same b
  | .ofVariable a, .ofVariable b => a == b
  | .ofParameter a, .ofParameter b => a == b
  | .ofPattern a, .ofPattern b => a.same b
  | .ofOpenPattern a, .ofOpenPattern b => a.same b
  | .ofColumn a, .ofColumn b => a.same b
  | .ofClause a, .ofClause b => a.same b
  | .ofQuery a, .ofQuery b => a.same b
  | _, _ => false

end Construct

end CypherQuery
