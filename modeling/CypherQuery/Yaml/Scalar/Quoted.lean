/-
**Quoted scalars.**

Between single quotes every character stands for itself, except that a single quote is written
twice.  Between double quotes a backslash starts an escape, which stands for one character; a
backslash before a line break drops it.

Main definitions:

* `CypherQuery.Yaml.QuotedScalar.readSingle`, `CypherQuery.Yaml.QuotedScalar.readDouble` — **the
  quoted scalar at a place** after its opening quote, if it has an end.
-/

import CypherQuery.Yaml.Scalar.Folding

set_option autoImplicit false

namespace CypherQuery.Yaml.QuotedScalar

/-- The text of a scalar, and what comes after it. -/
abbrev Read : Type := String × Cursor

/-- Whether a document mark stands in front of a word. -/
def isCutOff (f : Folding) (p : Position) (rest : List Char) : Bool :=
  !f.isEmpty && startsDocumentMarker p.column rest

/-! ### Single quotes -/

/-- Reads on between single quotes.  The characters so far are given in reverse. -/
def readSingleFrom (done : List Char) (f : Folding) : List Char → Position → Option Read
  | [], _ => none
  | '\r' :: '\n' :: rest, p => readSingleFrom done f.addBreak rest ((p.after '\r').after '\n')
  | '\'' :: '\'' :: rest, p =>
      readSingleFrom ('\'' :: (f.text.reverse ++ done)) .empty rest ((p.after '\'').after '\'')
  | c :: rest, p =>
      if isBreak c then readSingleFrom done f.addBreak rest (p.after c)
      else if isGap c then readSingleFrom done (f.addGap c) rest (p.after c)
      else if isCutOff f p (c :: rest) then none
      else if c == '\'' then
        some (String.ofList (f.text.reverse ++ done).reverse, ⟨rest, p.after c⟩)
      else readSingleFrom (c :: (f.text.reverse ++ done)) .empty rest (p.after c)

/-- **The scalar between single quotes at a place.** -/
def readSingle (cur : Cursor) : Option Read := readSingleFrom [] .empty cur.rest cur.position

/-! ### Double quotes -/

/-- What was begun between double quotes. -/
inductive Mode where
  /-- Nothing. -/
  | text
  /-- An escape, by a backslash. -/
  | escape
  /-- A number that stands for a character: so many digits are left, and the value so far. -/
  | code (left value : Nat)
  deriving DecidableEq, Repr

/-- The character that stands for an escape of one letter. -/
def escapedChar? (c : Char) : Option Char :=
  match c with
  | '0' => some '\x00'
  | 'a' => some '\x07'
  | 'b' => some '\x08'
  | 't' => some '\t'
  | '\t' => some '\t'
  | 'n' => some '\n'
  | 'v' => some '\x0b'
  | 'f' => some '\x0c'
  | 'r' => some '\r'
  | 'e' => some '\x1b'
  | ' ' => some ' '
  | '"' => some '"'
  | '\'' => some '\''
  | '\\' => some '\\'
  | 'N' => some '\u0085'
  | '_' => some '\u00a0'
  | 'L' => some '\u2028'
  | 'P' => some '\u2029'
  | _ => none

/-- How many digits follow the letter of an escape by number. -/
def codeLength? (c : Char) : Option Nat :=
  match c with
  | 'x' => some 2
  | 'u' => some 4
  | 'U' => some 8
  | _ => none

/-- Reads on between double quotes.  The characters so far are given in reverse. -/
def readDoubleFrom (done : List Char) (f : Folding) (mode : Mode) :
    List Char → Position → Option Read
  | [], _ => none
  | '\r' :: '\n' :: rest, p =>
      let p' := (p.after '\r').after '\n'
      match mode with
      | .text => readDoubleFrom done f.addBreak .text rest p'
      | .escape => readDoubleFrom done (.continued 0) .text rest p'
      | .code _ _ => none
  | c :: rest, p =>
      match mode with
      | .text =>
          if isBreak c then readDoubleFrom done f.addBreak .text rest (p.after c)
          else if isGap c then readDoubleFrom done (f.addGap c) .text rest (p.after c)
          else if isCutOff f p (c :: rest) then none
          else if c == '"' then
            some (String.ofList (f.text.reverse ++ done).reverse, ⟨rest, p.after c⟩)
          else if c == '\\' then
            readDoubleFrom (f.text.reverse ++ done) .empty .escape rest (p.after c)
          else readDoubleFrom (c :: (f.text.reverse ++ done)) .empty .text rest (p.after c)
      | .escape =>
          if isBreak c then readDoubleFrom done (.continued 0) .text rest (p.after c)
          else
            match escapedChar? c, codeLength? c with
            | some d, _ => readDoubleFrom (d :: done) .empty .text rest (p.after c)
            | none, some left => readDoubleFrom done .empty (.code left 0) rest (p.after c)
            | none, none => none
      | .code left value =>
          match hexValue? c with
          | none => none
          | some digit =>
              let value := 16 * value + digit
              if left ≤ 1 then
                match charOfCode? value with
                | some d => readDoubleFrom (d :: done) .empty .text rest (p.after c)
                | none => none
              else readDoubleFrom done .empty (.code (left - 1) value) rest (p.after c)

/-- **The scalar between double quotes at a place.** -/
def readDouble (cur : Cursor) : Option Read :=
  readDoubleFrom [] .empty .text cur.rest cur.position

end CypherQuery.Yaml.QuotedScalar
