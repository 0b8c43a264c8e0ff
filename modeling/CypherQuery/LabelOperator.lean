/-
**The sign between the labels of a node.**

Main definitions:

* `CypherQuery.LabelOperator` — the two signs;
* `CypherQuery.LabelOperator.read` — **the sign that a text stands for**: the sign itself or its
  name, with any blanks around it.
-/

import CypherQuery.Text.Blank

set_option autoImplicit false

namespace CypherQuery

/-- The sign between the labels of a node with several labels. -/
inductive LabelOperator where
  /-- `:` -/
  | colon
  /-- `&` -/
  | ampersand
  deriving DecidableEq, Repr, Inhabited

/-- A text that stands for no label operator, without the blanks at its ends. -/
structure UnknownLabelOperator where
  /-- The text. -/
  text : String
  deriving DecidableEq, Repr

/-- The wording of the error. -/
def UnknownLabelOperator.message (e : UnknownLabelOperator) : String :=
  "Unknown label operator '" ++ e.text ++ "' (expected ':' or '&')"

namespace LabelOperator

/-- The sign. -/
def separator : LabelOperator → String
  | .colon => ":"
  | .ampersand => "&"

/-- The operator that a sign stands for. -/
def ofSign? : String → Option LabelOperator
  | ":" => some .colon
  | "&" => some .ampersand
  | _ => none

theorem ofSign?_separator (op : LabelOperator) : ofSign? op.separator = some op := by
  cases op <;> rfl

/-- The operator that a sign or a name stands for. -/
def ofWord? : String → Option LabelOperator
  | "colon" => some .colon
  | "ampersand" => some .ampersand
  | sign => ofSign? sign

/-- **The operator that a text stands for.** -/
def read (text : String) : Except UnknownLabelOperator LabelOperator :=
  match ofWord? (Blank.trim text) with
  | some op => .ok op
  | none => .error ⟨Blank.trim text⟩

end LabelOperator

end CypherQuery
