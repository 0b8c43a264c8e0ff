/-
**Reading back expressions.**

A reader of expressions, for those names that an environment has given.  It looks at the text from
left to right: a word, a literal or an opening sign says what stands there; behind it there may be
keys, and then an operator that stands between two operands or behind one.  Parentheses are read
alike wherever they stand, and what they mean shows behind the first expression in them.

Main definitions:

* `CypherQuery.Reading.readOperand` — an expression without an operator at its end;
* `CypherQuery.Reading.readExpression` — **the reader of expressions**, down to a given depth.
-/

import CypherQuery.Environment
import CypherQuery.Expression.Basic
import CypherQuery.Proofs.Reading.Lexical

set_option autoImplicit false

namespace CypherQuery.Reading

/-! ### Names that were given -/

/-- Whose name a text is. -/
structure Owners where
  /-- The variable of that name. -/
  variableOf : String → Option Variable
  /-- The parameter of that name. -/
  parameterOf : String → Option Parameter

/-- The identity with a given name in a table. -/
def owner? {α : Type} (table : List (α × String)) (name : String) : Option α :=
  (table.find? fun entry => entry.2 == name).map Prod.fst

/-- The owners of the names that an environment has given. -/
def Owners.ofEnvironment (env : Environment) : Owners :=
  ⟨owner? env.boundVariables, owner? env.boundParameters⟩

/-! ### Operators -/

/-- The operators that stand between two operands without parentheses of their own. -/
def comparisons : List Operator :=
  [.equal, .notEqual, .lessThan, .greaterThan, .lessThanOrEqual, .greaterThanOrEqual, .regexMatch,
   .membership, .startsWith, .endsWith, .contains]

/-- The operators that stand between operands in parentheses. -/
def groupings : List Operator :=
  [.addition, .subtraction, .multiplication, .division, .modulo, .exponentiation, .conjunction,
   .disjunction, .exclusiveDisjunction]

theorem mem_comparisons_iff {op : Operator} : op ∈ comparisons ↔ op.family = .comparison := by
  cases op <;> decide

theorem mem_groupings_iff {op : Operator} :
    op ∈ groupings ↔ op.family = .arithmetic ∨ op.family = .connective := by
  cases op <;> decide

/-- What stands between two operands. -/
def signBetween (op : Operator) : String := " " ++ op.keyword ++ " "

/-- What stands behind an operand. -/
def signAfter (op : Operator) : String := " " ++ op.keyword

/-- The first of several operators whose sign a text starts with. -/
def readOperator (sign : Operator → String) (ops : List Operator) : Reader Operator := fun cs =>
  ops.findSome? fun op => (skip (sign op) cs).map fun rest => (op, rest)

/-! ### Expressions -/

section

variable (owners : Owners) (inner : Reader Expression)

/-- The constant that a word is. -/
def constant? : String → Option Literal
  | "NULL" => some .null
  | "true" => some (.bool true)
  | "false" => some (.bool false)
  | _ => none

/-- What a word that is no function stands for. -/
def wordMeaning? (word : String) : Option Expression :=
  match constant? word with
  | some l => some (.literal l)
  | none => (owners.variableOf word).map .reference

/-- The operand of a negation, in parentheses. -/
def readNegated : Reader Expression := fun cs => do
  let (operand, following) ← inner (← skip " (" cs)
  let rest ← skip ")" following
  some (.application .negation [operand], rest)

/-- A word: a function with its arguments, a negation, a constant or a variable. -/
def readWord : Reader Expression := fun cs => do
  let (word, rest) ← readName cs
  match rest with
  | '(' :: rest =>
      let (arguments, rest) ← readItems inner ", " ")" rest
      some (.call word arguments, rest)
  | _ =>
      if word = "NOT" then readNegated inner rest
      else (wordMeaning? owners word).map fun e => (e, rest)

/-- What stands in parentheses: an expression, or operands with an operator between each two. -/
def readGroup : Reader Expression := fun cs => do
  let (first, following) ← inner cs
  match skip ")" following with
  | some rest => some (first, rest)
  | none =>
      let (op, next) ← readOperator signBetween groupings following
      let (others, rest) ← readSeparated inner (signBetween op) ")" next
      some (.application op (first :: others), rest)

/-- The entry of a map: a key and an expression. -/
def readEntry : Reader (String × Expression) := fun cs => do
  let (key, following) ← readName cs
  let (e, rest) ← inner (← skip ": " following)
  some ((key, e), rest)

/-- An expression without keys behind it. -/
def readPrimary : Reader Expression
  | [] => none
  | c :: cs =>
      if c = StringLiteral.quote then
        (readString (c :: cs)).map fun r => (.literal (.text r.1), r.2)
      else if c = '-' || c.isDigit then
        (readInteger (c :: cs)).map fun r => (.literal (.integer r.1), r.2)
      else if c = '$' then do
        let (name, rest) ← readName cs
        some (.placeholder (← owners.parameterOf name), rest)
      else if c = '(' then readGroup inner cs
      else if c = '[' then (readItems inner ", " "]" cs).map fun r => (.list r.1, r.2)
      else if c = '\x7b' then
        (readItems (readEntry inner) ", " "\x7d" cs).map fun r => (.map r.1, r.2)
      else readWord owners inner (c :: cs)

/-- The keys behind an expression. -/
def readKeys (base : Expression) (cs : List Char) : Option (Expression × List Char) :=
  match cs with
  | '.' :: rest => do
      let (key, next) ← readName rest
      if next.length ≤ rest.length then readKeys (.property base key) next else none
  | _ => some (base, cs)
termination_by cs.length

/-- An expression without an operator at its end. -/
def readOperand : Reader Expression := fun cs => do
  let (base, rest) ← readPrimary owners inner cs
  readKeys base rest

/-- An expression, whose first operand has been read. -/
def readTail (first : Expression) (cs : List Char) : Option (Expression × List Char) :=
  match readOperator signBetween comparisons cs with
  | some (op, rest) => do
      let (second, rest) ← readOperand owners inner rest
      some (.application op [first, second], rest)
  | none =>
      match readOperator signAfter [.isNull, .isNotNull] cs with
      | some (op, rest) => some (.application op [first], rest)
      | none => some (first, cs)

end

/-- **The reader of expressions**, down to a given depth. -/
def readExpression (owners : Owners) : Nat → Reader Expression
  | 0 => fun _ => none
  | n + 1 => fun cs => do
      let (first, rest) ← readOperand owners (readExpression owners n) cs
      readTail owners (readExpression owners n) first rest

end CypherQuery.Reading
