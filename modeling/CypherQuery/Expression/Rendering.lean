/-
**Writing expressions.**

An expression is written from left to right, and names are given in that order.  Applications of
arithmetic operators, and of connectives to several operands, stand within parentheses.  Other
applications are put in parentheses where they are an operand of a comparison, of an arithmetic
operator or of a test for null; the operand of a negation always is.

The number of operands is checked first; then all operands are written, and their texts put
together.

Main definitions:

* `CypherQuery.Operator.fault?` — whether an operator may be given that many operands;
* `CypherQuery.Operator.compose` — the text of an application, from those of its operands;
* `CypherQuery.Expression.render` — **the text of an expression**.
-/

import CypherQuery.Decimal.Layout
import CypherQuery.Environment
import CypherQuery.Expression.Basic
import CypherQuery.Text.Identifier
import CypherQuery.Text.StringLiteral

set_option autoImplicit false

namespace CypherQuery

/-! ### Variables, parameters and constants -/

/-- The text of a variable: its name. -/
def Variable.render (v : Variable) : BuildM String := do
  let name ← Environment.nameOf v
  return Identifier.escape name

/-- The text of a parameter: a dollar sign and its name. -/
def Parameter.render (p : Parameter) : BuildM String := do
  let name ← Environment.recordParameter p p.value
  return "$" ++ Identifier.escape name

namespace Literal

/-- Doubles are positional while the exponent of their leading digit is from −4 to 15; a positive
exponent has no sign. -/
def doubleLayout : Decimal.Layout := ⟨-4, 16, false, .up⟩

/-- The text of a constant.  Only finite doubles have one. -/
def write : Literal → Except Malformation String
  | .null => .ok "NULL"
  | .bool b => .ok (if b then "true" else "false")
  | .integer n => .ok (toString n)
  | .double x => if x.isFinite then .ok (doubleLayout.write x) else .error (.nonFiniteLiteral x)
  | .text s => .ok (StringLiteral.render s)

/-- A constant as a step of a build. -/
def render (l : Literal) : BuildM String :=
  match l.write with
  | .ok written => .pure written
  | .error cause => .fail (.malformed cause)

end Literal

/-! ### Applications -/

namespace Operator

/-- What is wrong with a number of operands, if anything is. -/
def fault? (op : Operator) (operands : Nat) : Option Malformation :=
  match op.family with
  | .before | .after => if operands = 1 then none else some (.notOneOperand op operands)
  | .connective => if operands = 0 then some (.noOperand op) else none
  | .arithmetic | .comparison => if operands = 2 then none else some (.notTwoOperands op operands)

/-- The text of an application.  The operands are given twice: as they stand for themselves, and
as they stand beside an operator, where some have parentheses around them. -/
def compose (op : Operator) (alone beside : List String) : String :=
  let joined := String.intercalate (" " ++ op.keyword ++ " ")
  match op.family with
  | .arithmetic => "(" ++ joined beside ++ ")"
  | .comparison => joined beside
  | .connective => if alone.length = 1 then joined alone else "(" ++ joined alone ++ ")"
  | .before => op.keyword ++ " (" ++ joined alone ++ ")"
  | .after => joined beside ++ " " ++ op.keyword

end Operator

namespace Expression

/-- Whether an expression is put in parentheses beside an operator: so the applications whose text
has none of its own. -/
def isUndelimited : Expression → Bool
  | .application op operands => !op.isDelimited operands.length
  | _ => false

/-- The text of an operand beside an operator. -/
def besideText (operand : Expression) (text : String) : String :=
  if operand.isUndelimited then "(" ++ text ++ ")" else text

/-- The text of an application, from the operands and their texts. -/
def applicationText (op : Operator) (operands : List Expression) (texts : List String) : String :=
  op.compose texts (List.zipWith besideText operands texts)

/-! ### Expressions -/

/-- The text of a map, from those of its entries. -/
def mapText (entries : List String) : String :=
  "\x7b" ++ String.intercalate ", " entries ++ "\x7d"

mutual

/-- **The text of an expression.** -/
def render : Expression → BuildM String
  | .literal l => l.render
  | .reference v => v.render
  | .placeholder p => p.render
  | .property base key => do
      let text ← render base
      return text ++ "." ++ Identifier.escape key
  | .application op operands =>
      match op.fault? operands.length with
      | some cause => .fail (.malformed cause)
      | none => do
          let texts ← renderAll operands
          return applicationText op operands texts
  | .call function arguments => do
      let texts ← renderAll arguments
      return function ++ "(" ++ String.intercalate ", " texts ++ ")"
  | .list items => do
      let texts ← renderAll items
      return "[" ++ String.intercalate ", " texts ++ "]"
  | .map entries => do
      let texts ← renderEntries entries
      return mapText texts
  | .identityOf v => do
      let text ← v.render
      return "id(" ++ text ++ ")"
  | .labelsOf v => do
      let text ← v.render
      return "labels(" ++ text ++ ")"
  | .raw text => .pure text

/-- The texts of expressions, written from left to right. -/
def renderAll : List Expression → BuildM (List String)
  | [] => .pure []
  | e :: rest => do
      let text ← render e
      let texts ← renderAll rest
      return text :: texts

/-- The texts of entries, each a key and an expression, written from left to right. -/
def renderEntries : List (String × Expression) → BuildM (List String)
  | [] => .pure []
  | (key, e) :: rest => do
      let text ← render e
      let texts ← renderEntries rest
      return (Identifier.escape key ++ ": " ++ text) :: texts

end

/-- The text of a map with the given entries. -/
def renderMap (entries : List (String × Expression)) : BuildM String := do
  let texts ← renderEntries entries
  return mapText texts

end Expression

end CypherQuery
