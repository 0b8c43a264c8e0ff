/-
**Expressions.**

Main definitions:

* `CypherQuery.Literal` — the constants of the query language;
* `CypherQuery.Expression` — **expressions**;
* `CypherQuery.Expression.same` — comparison of expressions: identities by identity, doubles as
  numbers, all else to the letter and in order.
-/

import CypherQuery.Identity
import CypherQuery.Operator

set_option autoImplicit false

namespace CypherQuery

/-- The constants of the query language. -/
inductive Literal where
  /-- The absence of a value. -/
  | null
  /-- A truth value. -/
  | bool (b : Bool)
  /-- A whole number. -/
  | integer (n : Int)
  /-- A double. -/
  | double (x : Binary64)
  /-- A text. -/
  | text (s : String)
  deriving DecidableEq, Repr

/-- **Expressions.** -/
inductive Expression where
  /-- A constant. -/
  | literal (l : Literal)
  /-- A variable. -/
  | reference (v : Variable)
  /-- The place of a parameter. -/
  | placeholder (p : Parameter)
  /-- The property of a value under a key. -/
  | property (base : Expression) (key : String)
  /-- An operator with its operands. -/
  | application (op : Operator) (operands : List Expression)
  /-- A function with its arguments; its name is written as it stands. -/
  | call (function : String) (arguments : List Expression)
  /-- A list. -/
  | list (items : List Expression)
  /-- A map. -/
  | map (entries : List (String × Expression))
  /-- The internal identity of a node or relationship. -/
  | identityOf (v : Variable)
  /-- The labels of a node. -/
  | labelsOf (v : Variable)
  /-- Text of the query language, written as it stands. -/
  | raw (text : String)
  deriving Repr, Inhabited

/-- Comparison of constants. -/
def Literal.same : Literal → Literal → Bool
  | .double x, .double y => x.same y
  | a, b => a == b

namespace Expression

/-! ### Common expressions -/

/-- That two expressions are equal. -/
def equals (a b : Expression) : Expression := .application .equal [a, b]

/-- That two conditions hold. -/
def and (a b : Expression) : Expression := .application .conjunction [a, b]

/-- The property of a variable under a key. -/
def propertyOf (v : Variable) (key : String) : Expression := .property (.reference v) key

/-! ### Comparison -/

mutual

/-- **Comparison of expressions.** -/
def same : Expression → Expression → Bool
  | .literal a, .literal b => a.same b
  | .reference a, .reference b => a == b
  | .placeholder a, .placeholder b => a == b
  | .property a k, .property b l => same a b && k == l
  | .application op as, .application op' bs => op == op' && sameAll as bs
  | .call f as, .call g bs => f == g && sameAll as bs
  | .list as, .list bs => sameAll as bs
  | .map as, .map bs => sameEntries as bs
  | .identityOf a, .identityOf b => a == b
  | .labelsOf a, .labelsOf b => a == b
  | .raw s, .raw t => s == t
  | _, _ => false

/-- Comparison of lists of expressions. -/
def sameAll : List Expression → List Expression → Bool
  | [], [] => true
  | a :: as, b :: bs => same a b && sameAll as bs
  | _, _ => false

/-- Comparison of lists of entries. -/
def sameEntries : List (String × Expression) → List (String × Expression) → Bool
  | [], [] => true
  | (k, a) :: as, (l, b) :: bs => k == l && same a b && sameEntries as bs
  | _, _ => false

end

end Expression

end CypherQuery
