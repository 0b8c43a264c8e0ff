/-
**Plain scalars.**

A plain scalar runs over several words and lines.  It ends before a colon that a blank follows,
before a number sign that a blank precedes, before a document mark, and in block context where a
line is indented no deeper than its surroundings.  Within flow collections their signs end it too.

Main definitions:

* `CypherQuery.Yaml.PlainScalar.read` — **the plain scalar at a place**, if no tab indents it.
-/

import CypherQuery.Yaml.Scalar.Folding

set_option autoImplicit false

namespace CypherQuery.Yaml.PlainScalar

/-- Where a scalar stands. -/
structure Context where
  /-- Whether it is within a flow collection. -/
  inFlow : Bool
  /-- The least column of its further lines. -/
  indent : Int
  deriving DecidableEq, Repr

/-- A scalar that was read. -/
structure Read where
  /-- Its text. -/
  text : String
  /-- Whether it ended after a line break. -/
  endsLine : Bool
  /-- What comes after it. -/
  rest : Cursor

/-- Whether a character ends a scalar wherever it stands, given the text after it. -/
def isEnd (context : Context) (c : Char) (rest : List Char) : Bool :=
  if c == ':' then startsWithSpace rest || (context.inFlow && startsWithFlowSign rest)
  else context.inFlow && isFlowSign c

/-- Whether a scalar ends before a word after blanks or line breaks. -/
def isEndAfterGap (context : Context) (p : Position) (rest : List Char) : Bool :=
  (!context.inFlow && decide ((p.column : Int) < context.indent)) ||
    startsDocumentMarker p.column rest || rest.head? == some '#'

/-- Reads on.  The characters so far are given in reverse. -/
def readFrom (context : Context) (done : List Char) (f : Folding) :
    List Char → Position → Option Read
  | [], p => some ⟨String.ofList done.reverse, f.isBroken, ⟨[], p⟩⟩
  | '\r' :: '\n' :: rest, p =>
      readFrom context done f.addBreak rest ((p.after '\r').after '\n')
  | c :: rest, p =>
      if isBreak c then readFrom context done f.addBreak rest (p.after c)
      else if isGap c then
        if f.isBroken ∧ (p.column : Int) < context.indent ∧ c = '\t' then none
        else readFrom context done (f.addGap c) rest (p.after c)
      else if (!f.isEmpty && isEndAfterGap context p (c :: rest)) || isEnd context c rest then
        some ⟨String.ofList done.reverse, f.isBroken, ⟨c :: rest, p⟩⟩
      else readFrom context (c :: (f.text.reverse ++ done)) .empty rest (p.after c)

/-- **The plain scalar at a place.** -/
def read (context : Context) (cur : Cursor) : Option Read :=
  readFrom context [] .empty cur.rest cur.position

end CypherQuery.Yaml.PlainScalar
