/-
**Writing clauses and queries.**

A clause starts with its keyword.  A condition, the sort items and the numbers of rows stand on
lines of their own, and so does every clause of a query.

Main definitions:

* `CypherQuery.Column.render`, `CypherQuery.Clause.render` — columns and clauses;
* `CypherQuery.Query.render` — **the text of a query**.
-/

import CypherQuery.Clause.Basic
import CypherQuery.Pattern.Rendering

set_option autoImplicit false

namespace CypherQuery

/-! ### The parts of clauses -/

/-- The text of a column. -/
def Column.render : Column → BuildM String
  | .plain e => e.render
  | .aliased e name => do
      let text ← e.render
      let nameText ← name.render
      return text ++ " AS " ++ nameText

/-- The text of the columns of a projection; a star stands for all columns. -/
def renderColumns (columns : List Column) : BuildM String :=
  if columns.isEmpty then .pure "*"
  else do
    let texts ← BuildM.each Column.render columns
    return String.intercalate ", " texts

/-- The text of a keyword and patterns, of which there must be one. -/
def renderPatterns (keyword : String) (patterns : List Pattern) : BuildM String :=
  if patterns.isEmpty then .fail (.malformed (.noPattern keyword))
  else do
    let texts ← BuildM.each Pattern.render patterns
    return keyword ++ " " ++ String.intercalate ", " texts

/-- The text of a part that may be absent: a line of its own that starts with a keyword. -/
def renderPart (keyword : String) : Option Expression → BuildM String
  | none => .pure ""
  | some e => do
      let text ← e.render
      return "\n" ++ keyword ++ " " ++ text

/-- The text of a sort item. -/
def SortItem.render (item : SortItem) : BuildM String := do
  let text ← item.expression.render
  return text ++ " " ++ item.order.keyword

/-- The text of the sort items, on a line of its own. -/
def renderSortItems (items : List SortItem) : BuildM String :=
  if items.isEmpty then .pure ""
  else do
    let texts ← BuildM.each SortItem.render items
    return "\nORDER BY " ++ String.intercalate ", " texts

/-- The text of an assignment. -/
def Assignment.render (a : Assignment) : BuildM String := do
  let target ← a.target.render
  let value ← a.value.render
  return target ++ " = " ++ value

/-- The word after the keyword of a projection that leaves out equal rows. -/
def distinctText (distinct : Bool) : String := if distinct then "DISTINCT " else ""

/-! ### Clauses -/

/-- The keyword of a clause that matches patterns. -/
def MatchClause.keyword (c : MatchClause) : String :=
  if c.optional then "OPTIONAL MATCH" else "MATCH"

/-- The text of a clause that matches patterns. -/
def MatchClause.render (c : MatchClause) : BuildM String := do
  let text ← renderPatterns c.keyword c.patterns
  let condition ← renderPart "WHERE" c.condition
  return text ++ condition

/-- The text of a clause that hands columns on. -/
def WithClause.render (c : WithClause) : BuildM String := do
  let columns ← renderColumns c.columns
  let condition ← renderPart "WHERE" c.condition
  return "WITH " ++ distinctText c.distinct ++ columns ++ condition

/-- The text of a clause that returns columns. -/
def ReturnClause.render (c : ReturnClause) : BuildM String := do
  let columns ← renderColumns c.columns
  let sortItems ← renderSortItems c.sortItems
  let skipped ← renderPart "SKIP" c.skipped
  let limit ← renderPart "LIMIT" c.limit
  return "RETURN " ++ distinctText c.distinct ++ columns ++ sortItems ++ skipped ++ limit

/-- The text of a clause that assigns properties. -/
def renderAssignments (assignments : List Assignment) : BuildM String :=
  if assignments.isEmpty then .fail (.malformed .nothingSet)
  else do
    let texts ← BuildM.each Assignment.render assignments
    return "SET " ++ String.intercalate ", " texts

/-- The text of a clause that deletes. -/
def renderDeletions (detached : Bool) (items : List Expression) : BuildM String :=
  if items.isEmpty then .fail (.malformed .nothingDeleted)
  else do
    let texts ← Expression.renderAll items
    return (if detached then "DETACH DELETE " else "DELETE ") ++ String.intercalate ", " texts

/-- **The text of a clause.** -/
def Clause.render : Clause → BuildM String
  | .matching c => c.render
  | .creating patterns => renderPatterns "CREATE" patterns
  | .merging pattern => do
      let text ← pattern.render
      return "MERGE " ++ text
  | .handingOn c => c.render
  | .unwinding items name => do
      let text ← items.render
      let nameText ← name.render
      return "UNWIND " ++ text ++ " AS " ++ nameText
  | .setting assignments => renderAssignments assignments
  | .deleting detached items => renderDeletions detached items
  | .returning c => c.render

/-- **The text of a query**: its clauses, of which there must be one, on lines of their own. -/
def Query.render (q : Query) : BuildM String :=
  if q.clauses.isEmpty then .fail (.malformed .noClause)
  else do
    let texts ← BuildM.each Clause.render q.clauses
    return String.intercalate "\n" texts

end CypherQuery
