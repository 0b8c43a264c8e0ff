/-
**Places in a YAML text.**

A cursor holds the rest of a text and the place where it starts.  Lines are counted by line feeds:
a carriage return breaks a line as well, but only a line feed takes the column back to zero.

Main definitions:

* `CypherQuery.Yaml.Position`, `CypherQuery.Yaml.Cursor` — places, and the text from there on;
* `CypherQuery.Yaml.Cursor.skip`, `CypherQuery.Yaml.Cursor.skipWhile` — moving on;
* `CypherQuery.Yaml.startsDocumentMarker` — the marks between documents.
-/

set_option autoImplicit false

namespace CypherQuery.Yaml

/-! ### Characters -/

/-- The characters that break a line. -/
def isBreak (c : Char) : Bool := c == '\n' || c == '\r'

/-- The blanks within a line. -/
def isGap (c : Char) : Bool := c == ' ' || c == '\t'

/-- The signs of flow collections. -/
def isFlowSign (c : Char) : Bool := c == ',' || c == '[' || c == ']' || c == '\x7b' || c == '\x7d'

/-- The characters of anchors and of the names of tags and directives. -/
def isNameChar (c : Char) : Bool := c.isAlphanum || c == '_' || c == '-'

/-- The value of a hexadecimal digit. -/
def hexValue? (c : Char) : Option Nat :=
  if c.isDigit then some (c.toNat - 48)
  else if 'a' ≤ c ∧ c ≤ 'f' then some (c.toNat - 87)
  else if 'A' ≤ c ∧ c ≤ 'F' then some (c.toNat - 55)
  else none

/-- The character with a given number. -/
def charOfCode? (n : Nat) : Option Char := if n.isValidChar then some (Char.ofNat n) else none

/-- Whether a text starts with a blank or a line break, or is at its end. -/
def startsWithSpace : List Char → Bool
  | [] => true
  | c :: _ => isGap c || isBreak c

/-- Whether a text starts with the sign of a flow collection. -/
def startsWithFlowSign : List Char → Bool
  | [] => false
  | c :: _ => isFlowSign c

/-! ### Places -/

/-- A place in a text. -/
structure Position where
  /-- How many characters are before it. -/
  index : Nat
  /-- How many line feeds are before it. -/
  line : Nat
  /-- How many characters are between the last line feed and it. -/
  column : Nat
  deriving DecidableEq, Repr

namespace Position

/-- The place at the start of a text. -/
def start : Position := ⟨0, 0, 0⟩

/-- The place after a character. -/
def after (p : Position) (c : Char) : Position :=
  if c = '\n' then ⟨p.index + 1, p.line + 1, 0⟩ else ⟨p.index + 1, p.line, p.column + 1⟩

/-- The place after some characters. -/
def afterAll (p : Position) (cs : List Char) : Position := cs.foldl after p

end Position

/-- The rest of a text, and the place where it starts. -/
structure Cursor where
  /-- The rest of the text. -/
  rest : List Char
  /-- The place where it starts. -/
  position : Position
  deriving DecidableEq, Repr

namespace Cursor

/-- The column of a cursor. -/
def column (cur : Cursor) : Nat := cur.position.column

/-- The cursor some characters further on. -/
def skip (cur : Cursor) (n : Nat) : Cursor :=
  ⟨cur.rest.drop n, cur.position.afterAll (cur.rest.take n)⟩

/-- The characters up to the first one without a property. -/
def takeWhile (cur : Cursor) (p : Char → Bool) : List Char := cur.rest.takeWhile p

/-- The cursor at the first character without a property. -/
def skipWhile (cur : Cursor) (p : Char → Bool) : Cursor :=
  ⟨cur.rest.dropWhile p, cur.position.afterAll (cur.rest.takeWhile p)⟩

/-- The cursor after a line break; a carriage return and a line feed are one. -/
def skipBreak (cur : Cursor) : Cursor :=
  match cur.rest with
  | '\r' :: '\n' :: _ => cur.skip 2
  | c :: _ => if isBreak c then cur.skip 1 else cur
  | [] => cur

/-- The cursor at the end of the line, if nothing but blanks and a comment are before it. -/
def skipToLineEnd? (cur : Cursor) : Option Cursor :=
  let cur := cur.skipWhile isGap
  match cur.rest with
  | '#' :: _ => some (cur.skipWhile fun c => !isBreak c)
  | c :: _ => if isBreak c then some cur else none
  | [] => some cur

end Cursor

/-- Whether three equal characters and a blank, a line break or the end of the text stand here. -/
def isTriple (sign : Char) : List Char → Bool
  | a :: b :: c :: rest => a == sign && b == sign && c == sign && startsWithSpace rest
  | _ => false

/-- Whether the mark that starts or ends a document stands here. -/
def startsDocumentMarker (column : Nat) (rest : List Char) : Bool :=
  column == 0 && (isTriple '-' rest || isTriple '.' rest)

end CypherQuery.Yaml
