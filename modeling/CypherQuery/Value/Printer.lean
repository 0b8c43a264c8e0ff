/-
**The text of values.**

Values are written as JSON, either on one line without blanks or laid out with two blanks of
indentation a level.  Texts are written between double quotes; a double quote, a backslash and the
control characters below U+0020 are escaped, and every other character stands for itself.
Doubles always have a point or an exponent, so that they do not read as whole numbers; what is no
finite number is written `null`.

Main definitions:

* `CypherQuery.Value.compact` — **a value on one line**;
* `CypherQuery.Value.pretty` — **a value laid out over several lines**.
-/

import CypherQuery.Value.Basic
import CypherQuery.Decimal.Layout

set_option autoImplicit false

namespace CypherQuery.Value

/-! ### Texts and numbers -/

/-- The lower case hexadecimal digit of a number below sixteen. -/
def hexDigit (n : Nat) : Char := if n < 10 then Char.ofNat (48 + n) else Char.ofNat (87 + n)

/-- How a character is written between double quotes. -/
def quotedChar (c : Char) : List Char :=
  if c = '"' then ['\\', '"']
  else if c = '\\' then ['\\', '\\']
  else if c = '\x08' then ['\\', 'b']
  else if c = '\t' then ['\\', 't']
  else if c = '\n' then ['\\', 'n']
  else if c = '\x0c' then ['\\', 'f']
  else if c = '\r' then ['\\', 'r']
  else if c.toNat < 32 then
    ['\\', 'u', '0', '0', hexDigit (c.toNat / 16), hexDigit (c.toNat % 16)]
  else [c]

/-- A text between double quotes. -/
def quoted (s : String) : String :=
  String.ofList ('"' :: s.toList.flatMap quotedChar ++ ['"'])

/-- Doubles are positional while the exponent of their leading digit is from −5 to 15; a positive
exponent has a sign. -/
def doubleLayout : Decimal.Layout := ⟨-5, 16, true, .toEven⟩

/-- The text of a double. -/
def doubleText (x : Binary64) : String := if x.isFinite then doubleLayout.write x else "null"

/-! ### On one line -/

mutual

/-- **A value on one line.** -/
def compact : Value → String
  | .null => "null"
  | .bool b => if b then "true" else "false"
  | .integer n => toString n
  | .double x => doubleText x
  | .text s => quoted s
  | .list items => "[" ++ String.intercalate "," (compactItems items) ++ "]"
  | .dictionary entries => "\x7b" ++ String.intercalate "," (compactEntries entries) ++ "\x7d"

/-- The texts of the items of a list. -/
def compactItems : List Value → List String
  | [] => []
  | v :: rest => compact v :: compactItems rest

/-- The texts of the entries of a dictionary. -/
def compactEntries : List (String × Value) → List String
  | [] => []
  | (k, v) :: rest => (quoted k ++ ":" ++ compact v) :: compactEntries rest

end

/-! ### Over several lines -/

/-- A line break and the indentation of a level. -/
def lineBreak (level : Nat) : String := String.ofList ('\n' :: List.replicate (2 * level) ' ')

/-- Parts on lines of their own, one level deeper than the two signs around them.  Without parts
the two signs stand together. -/
def block (level : Nat) (opening closing : String) (parts : List String) : String :=
  if parts.isEmpty then opening ++ closing
  else
    opening ++ lineBreak (level + 1) ++ String.intercalate ("," ++ lineBreak (level + 1)) parts ++
      lineBreak level ++ closing

mutual

/-- A value laid out over several lines, from a given level of indentation. -/
def prettyAt (level : Nat) : Value → String
  | .list items => block level "[" "]" (prettyItems (level + 1) items)
  | .dictionary entries => block level "\x7b" "\x7d" (prettyEntries (level + 1) entries)
  | v => compact v

/-- The items of a list, each laid out. -/
def prettyItems (level : Nat) : List Value → List String
  | [] => []
  | v :: rest => prettyAt level v :: prettyItems level rest

/-- The entries of a dictionary, each laid out. -/
def prettyEntries (level : Nat) : List (String × Value) → List String
  | [] => []
  | (k, v) :: rest => (quoted k ++ ": " ++ prettyAt level v) :: prettyEntries level rest

end

/-- **A value laid out over several lines.** -/
def pretty (v : Value) : String := prettyAt 0 v

end CypherQuery.Value
