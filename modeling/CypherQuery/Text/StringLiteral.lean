/-
**String literals of the query language.**

A string literal stands between single quotes.  A backslash, a single quote, and the three
characters that would break or shift a line are written as a backslash and a letter or sign; every
other character stands for itself.

Main definitions:

* `CypherQuery.StringLiteral.escapeChar` — how a character is written inside a literal;
* `CypherQuery.StringLiteral.render` — **the literal of a text**.
-/

set_option autoImplicit false

namespace CypherQuery.StringLiteral

/-- The single quote, which opens and closes a literal. -/
def quote : Char := '\''

/-- How a character is written inside a literal. -/
def escapeChar (c : Char) : List Char :=
  if c = '\\' then ['\\', '\\']
  else if c = quote then ['\\', quote]
  else if c = '\n' then ['\\', 'n']
  else if c = '\r' then ['\\', 'r']
  else if c = '\t' then ['\\', 't']
  else [c]

/-- A character is written as it is or behind a backslash; backslashes and single quotes are never
written as they are. -/
theorem escapeChar_cases (c : Char) :
    (escapeChar c = [c] ∧ c ≠ '\\' ∧ c ≠ quote) ∨ ∃ d, escapeChar c = ['\\', d] := by
  unfold escapeChar
  by_cases hbackslash : c = '\\'
  · exact Or.inr ⟨'\\', if_pos hbackslash⟩
  by_cases hquote : c = quote
  · exact Or.inr ⟨quote, by rw [if_neg hbackslash, if_pos hquote]⟩
  rw [if_neg hbackslash, if_neg hquote]
  split
  · exact Or.inr ⟨_, rfl⟩
  split
  · exact Or.inr ⟨_, rfl⟩
  split
  · exact Or.inr ⟨_, rfl⟩
  · exact Or.inl ⟨rfl, hbackslash, hquote⟩

/-- **The literal of a text.** -/
def render (text : String) : String :=
  String.ofList (quote :: text.toList.flatMap escapeChar ++ [quote])

theorem toList_render (text : String) :
    (render text).toList = quote :: text.toList.flatMap escapeChar ++ [quote] := by
  simp [render]

end CypherQuery.StringLiteral
