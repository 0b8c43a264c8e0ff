/-
**What can go wrong in a build.**

Main definitions:

* `CypherQuery.NameClass` — the two sorts of names;
* `CypherQuery.Malformation` — the ways in which a construct cannot be written;
* `CypherQuery.BuildError` — **the causes of a failing build**;
* `CypherQuery.BuildError.message` — their wording;
* `CypherQuery.missingFileText` — what is said of a file that is not there.
-/

import CypherQuery.Operator
import CypherQuery.Value.Printer

set_option autoImplicit false

namespace CypherQuery

/-- The two sorts of names.  A variable and a parameter may share a name. -/
inductive NameClass where
  /-- Names of variables. -/
  | variableName
  /-- Names of parameters. -/
  | parameterName
  deriving DecidableEq, Repr

/-- The class as a word. -/
def NameClass.word : NameClass → String
  | .variableName => "variable"
  | .parameterName => "parameter"

/-- The ways in which a construct cannot be written. -/
inductive Malformation where
  /-- A literal of a double that is no finite number. -/
  | nonFiniteLiteral (x : Binary64)
  /-- An operator of one operand was given another number of them. -/
  | notOneOperand (op : Operator) (given : Nat)
  /-- An operator of two operands was given another number of them. -/
  | notTwoOperands (op : Operator) (given : Nat)
  /-- A connective was given no operand. -/
  | noOperand (op : Operator)
  /-- A clause with the given keyword has no pattern. -/
  | noPattern (keyword : String)
  /-- A clause that assigns properties assigns none. -/
  | nothingSet
  /-- A clause that deletes has nothing to delete. -/
  | nothingDeleted
  /-- A query without clauses. -/
  | noClause
  deriving DecidableEq, Repr

namespace Malformation

/-- A double that is no finite number, as a word. -/
def nonFiniteWord (x : Binary64) : String :=
  if x.isNaN then "NaN" else if x.isNegative then "-inf" else "inf"

/-- The wording of a malformation. -/
def message : Malformation → String
  | .nonFiniteLiteral x =>
      "non-finite float literal " ++ nonFiniteWord x ++ " (pass it as a parameter instead)"
  | .notOneOperand op given =>
      op.keyword ++ " takes exactly one operand, got " ++ toString given
  | .notTwoOperands op given =>
      op.keyword ++ " takes exactly two operands, got " ++ toString given
  | .noOperand op => op.keyword ++ " needs at least one operand"
  | .noPattern keyword => keyword ++ " clause must contain at least one pattern"
  | .nothingSet => "SET clause has no items"
  | .nothingDeleted => "DELETE clause has no items"
  | .noClause => "query has no clauses"

end Malformation

/-- **The causes of a failing build.** -/
inductive BuildError where
  /-- A name already belongs to another identity of its class. -/
  | nameCollision (name : String) (nameClass : NameClass)
  /-- A parameter was recorded with two different values. -/
  | ambiguousParameter (name : String) (first second : Value)
  /-- A pattern ends on a relationship. -/
  | incompletePattern
  /-- The least number of hops exceeds the greatest. -/
  | invertedLength (least greatest : Nat)
  /-- A construct cannot be written. -/
  | malformed (cause : Malformation)
  /-- The beginning of generated names is no plain identifier. -/
  | invalidNamePrefix
  deriving DecidableEq, Repr

namespace BuildError

/-- What is said of a beginning of generated names that is no plain identifier. -/
def namePrefixMessage : String :=
  "prefix: Prefix must be empty or a plain identifier ([A-Za-z_][A-Za-z0-9_]*)"

/-- The wording of an error. -/
def message : BuildError → String
  | .nameCollision name nameClass =>
      "Name collision: '" ++ name ++ "' is already bound to a different " ++ nameClass.word ++
        " in this build"
  | .ambiguousParameter name first second =>
      "Ambiguous parameter binding: '" ++ name ++ "' was recorded with " ++ first.compact ++
        " and again with " ++ second.compact
  | .incompletePattern =>
      "Incomplete pattern: the pattern ends on a relationship with no target node " ++
        "(call to(...) before rendering)"
  | .invertedLength least greatest =>
      "Invalid variable-length range: minimum hops (" ++ toString least ++
        ") cannot be greater than maximum hops (" ++ toString greatest ++ ")"
  | .malformed cause => "Malformed AST: " ++ cause.message
  | .invalidNamePrefix => "Invalid build configuration: " ++ namePrefixMessage

end BuildError

/-- What the system says of a file that is not there. -/
def missingFileText : String := "No such file or directory (os error 2)"

end CypherQuery
