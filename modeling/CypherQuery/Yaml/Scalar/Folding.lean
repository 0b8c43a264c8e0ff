/-
**Folding: blanks and line breaks within scalars.**

Between two words of a scalar the blanks of a line stand for themselves.  If the line is broken
there, the blanks are dropped: a single line break stands for a space, and of several the first is
dropped and the others stand for themselves.  A line break that is escaped is dropped, whatever
follows.

Main definitions:

* `CypherQuery.Yaml.Folding` — what was read since the last word;
* `CypherQuery.Yaml.Folding.text` — **what it stands for**.
-/

import CypherQuery.Yaml.Cursor

set_option autoImplicit false

namespace CypherQuery.Yaml

/-- What was read since the last word of a scalar. -/
inductive Folding where
  /-- Blanks, or nothing. -/
  | gap (blanks : List Char)
  /-- A line break, and so many further ones. -/
  | broken (further : Nat)
  /-- An escaped line break, and so many further ones. -/
  | continued (further : Nat)
  deriving DecidableEq, Repr

namespace Folding

/-- Nothing was read. -/
def empty : Folding := .gap []

/-- Whether anything was read. -/
def isEmpty (f : Folding) : Bool := f == .gap []

/-- Whether a line break was read that was not escaped. -/
def isBroken : Folding → Bool
  | .broken _ => true
  | _ => false

/-- A blank more. -/
def addGap (f : Folding) (c : Char) : Folding :=
  match f with
  | .gap blanks => .gap (blanks ++ [c])
  | f => f

/-- A line break more. -/
def addBreak : Folding → Folding
  | .gap _ => .broken 0
  | .broken further => .broken (further + 1)
  | .continued further => .continued (further + 1)

/-- **What stands for it in the scalar.** -/
def text : Folding → List Char
  | .gap blanks => blanks
  | .broken 0 => [' ']
  | .broken further => List.replicate further '\n'
  | .continued further => List.replicate further '\n'

end Folding

end CypherQuery.Yaml
