/-
**Operators.**

There are four families.  Arithmetic operators and comparisons stand between two operands; the
connectives join any number of operands; negation stands before its operand; and the two tests for
null stand after it.

Main definitions:

* `CypherQuery.Operator` — the operators;
* `CypherQuery.Operator.keyword` — how an operator is written;
* `CypherQuery.Operator.family` — **the family, which decides the number of operands**.
-/

set_option autoImplicit false

namespace CypherQuery

/-- The operators. -/
inductive Operator where
  /-- `+` -/
  | addition
  /-- `-` -/
  | subtraction
  /-- `*` -/
  | multiplication
  /-- `/` -/
  | division
  /-- `%` -/
  | modulo
  /-- `^` -/
  | exponentiation
  /-- `=` -/
  | equal
  /-- `<>` -/
  | notEqual
  /-- `<` -/
  | lessThan
  /-- `>` -/
  | greaterThan
  /-- `<=` -/
  | lessThanOrEqual
  /-- `>=` -/
  | greaterThanOrEqual
  /-- `=~` -/
  | regexMatch
  /-- Membership in a list. -/
  | membership
  /-- Whether a text starts with another. -/
  | startsWith
  /-- Whether a text ends with another. -/
  | endsWith
  /-- Whether a text contains another. -/
  | contains
  /-- Conjunction. -/
  | conjunction
  /-- Disjunction. -/
  | disjunction
  /-- Exclusive disjunction. -/
  | exclusiveDisjunction
  /-- Negation. -/
  | negation
  /-- Whether the operand is null. -/
  | isNull
  /-- Whether the operand is not null. -/
  | isNotNull
  deriving DecidableEq, Repr

namespace Operator

/-- How an operator is written. -/
def keyword : Operator → String
  | .addition => "+"
  | .subtraction => "-"
  | .multiplication => "*"
  | .division => "/"
  | .modulo => "%"
  | .exponentiation => "^"
  | .equal => "="
  | .notEqual => "<>"
  | .lessThan => "<"
  | .greaterThan => ">"
  | .lessThanOrEqual => "<="
  | .greaterThanOrEqual => ">="
  | .regexMatch => "=~"
  | .membership => "IN"
  | .startsWith => "STARTS WITH"
  | .endsWith => "ENDS WITH"
  | .contains => "CONTAINS"
  | .conjunction => "AND"
  | .disjunction => "OR"
  | .exclusiveDisjunction => "XOR"
  | .negation => "NOT"
  | .isNull => "IS NULL"
  | .isNotNull => "IS NOT NULL"

/-- Where an operator stands with respect to its operands. -/
inductive Family where
  /-- Between two operands, always within parentheses. -/
  | arithmetic
  /-- Between two operands. -/
  | comparison
  /-- Between any number of operands, within parentheses if there are several. -/
  | connective
  /-- Before one operand. -/
  | before
  /-- After one operand. -/
  | after
  deriving DecidableEq, Repr

/-- **The family of an operator.** -/
def family : Operator → Family
  | .addition | .subtraction | .multiplication | .division | .modulo | .exponentiation =>
      .arithmetic
  | .equal | .notEqual | .lessThan | .greaterThan | .lessThanOrEqual | .greaterThanOrEqual
  | .regexMatch | .membership | .startsWith | .endsWith | .contains => .comparison
  | .conjunction | .disjunction | .exclusiveDisjunction => .connective
  | .negation => .before
  | .isNull | .isNotNull => .after

/-- Whether the text of an application has parentheses of its own around it. -/
def isDelimited (op : Operator) (operands : Nat) : Bool :=
  match op.family with
  | .arithmetic => true
  | .connective => 1 < operands
  | _ => false

end Operator

end CypherQuery
