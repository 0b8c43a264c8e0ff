/-
**Block scalars.**

A block scalar follows a header line: a sign, which says whether line breaks are kept or folded,
and possibly a digit for the indentation and a sign for the line breaks at the end.  Without a
digit the indentation is that of the first line that is not empty.  The scalar ends where a line
is indented less.

Main definitions:

* `CypherQuery.Yaml.BlockScalar.Chomping`, `CypherQuery.Yaml.BlockScalar.Header` — the header;
* `CypherQuery.Yaml.BlockScalar.read` — **the block scalar at a place** after its first sign.
-/

import CypherQuery.Yaml.Cursor

set_option autoImplicit false

namespace CypherQuery.Yaml.BlockScalar

/-- What becomes of the line breaks at the end of a scalar. -/
inductive Chomping where
  /-- The first is kept. -/
  | clip
  /-- None is kept. -/
  | strip
  /-- All are kept. -/
  | keep
  deriving DecidableEq, Repr

/-- What a header says. -/
structure Header where
  /-- What becomes of the line breaks at the end. -/
  chomping : Chomping
  /-- The indentation in addition to that of the surroundings; zero if it is not given. -/
  increment : Nat
  deriving DecidableEq, Repr

/-- The sign for the line breaks at the end, if there is one. -/
def chomping? : List Char → Option Chomping
  | '+' :: _ => some .keep
  | '-' :: _ => some .strip
  | _ => none

/-- The digit for the indentation, if there is one; zero is none. -/
def increment? : List Char → Option Nat
  | c :: _ => if c.isDigit then some (c.toNat - 48) else none
  | [] => none

/-- The signs of a header, in either order, and what comes after them. -/
def readHeader (cur : Cursor) : Option (Header × Cursor) :=
  match chomping? cur.rest with
  | some chomping =>
      let cur := cur.skip 1
      match increment? cur.rest with
      | none => some (⟨chomping, 0⟩, cur)
      | some 0 => none
      | some n => some (⟨chomping, n⟩, cur.skip 1)
  | none =>
      match increment? cur.rest with
      | none => some (⟨.clip, 0⟩, cur)
      | some 0 => none
      | some n =>
          let cur := cur.skip 1
          match chomping? cur.rest with
          | some chomping => some (⟨chomping, n⟩, cur.skip 1)
          | none => some (⟨.clip, n⟩, cur)

/-- The scalar so far. -/
structure State where
  /-- Whether line breaks are kept. -/
  literal : Bool
  /-- The column of its lines; zero as long as it is not known. -/
  indent : Nat
  /-- The least column that its lines may have. -/
  leastIndent : Nat
  /-- The greatest column reached in the empty lines before it. -/
  reached : Nat
  /-- The characters so far, in reverse. -/
  done : List Char
  /-- Whether a line was ended by a line break. -/
  lineEnded : Bool
  /-- How many empty lines came after that. -/
  emptyLines : Nat
  /-- Whether the last line started with a blank. -/
  startedBlank : Bool

/-- The indentation, once the first line is reached. -/
def State.settle (s : State) (column : Nat) : State :=
  if s.indent = 0 then
    { s with indent := max (max s.reached column) s.leastIndent }
  else s

/-- The characters before a line that starts with the given one: the line break before it and the
empty lines.  In a folded scalar a line break between two lines that do not start with a blank is
a space, or nothing if empty lines follow it. -/
def State.separator (s : State) (c : Char) : List Char :=
  let lineBreak :=
    if !s.lineEnded then []
    else if s.literal || s.startedBlank || isGap c then ['\n']
    else if s.emptyLines = 0 then [' ']
    else []
  lineBreak ++ List.replicate s.emptyLines '\n'

/-- The text of a scalar at its end. -/
def State.finish (s : State) (chomping : Chomping) : String :=
  let lineBreak := if s.lineEnded && chomping != .strip then ['\n'] else []
  let emptyLines := if chomping == .keep then List.replicate s.emptyLines '\n' else []
  String.ofList (s.done.reverse ++ lineBreak ++ emptyLines)

/-- Reads on, within a line or before one.  A tab must not stand where the indentation is read. -/
def readFrom (chomping : Chomping) (s : State) (inLine : Bool) :
    List Char → Position → Option (String × Cursor)
  | [], p => some (s.finish chomping, ⟨[], p⟩)
  | '\r' :: '\n' :: rest, p =>
      let p' := (p.after '\r').after '\n'
      if inLine then
        readFrom chomping { s with lineEnded := true, emptyLines := 0 } false rest p'
      else
        readFrom chomping
          { s with emptyLines := s.emptyLines + 1, reached := max s.reached p.column } false rest p'
  | c :: rest, p =>
      if inLine then
        if isBreak c then
          readFrom chomping { s with lineEnded := true, emptyLines := 0 } false rest (p.after c)
        else readFrom chomping { s with done := c :: s.done } true rest (p.after c)
      else
        let isIndent := s.indent = 0 ∨ p.column < s.indent
        if isIndent ∧ c = ' ' then readFrom chomping s false rest (p.after c)
        else if isIndent ∧ c = '\t' then none
        else if isBreak c then
          readFrom chomping
            { s with emptyLines := s.emptyLines + 1, reached := max s.reached p.column } false rest
            (p.after c)
        else
          let s := s.settle p.column
          if p.column = s.indent then
            readFrom chomping
              { s with
                done := c :: ((s.separator c).reverse ++ s.done)
                lineEnded := false
                emptyLines := 0
                startedBlank := isGap c }
              true rest (p.after c)
          else some (s.finish chomping, ⟨c :: rest, p⟩)

/-- **The block scalar at a place** after its first sign, within surroundings of the given
indentation. -/
def read (literal : Bool) (surroundings : Int) (cur : Cursor) : Option (String × Cursor) := do
  let (header, cur) ← readHeader cur
  let cur ← cur.skipToLineEnd?
  let cur := cur.skipBreak
  let indent := if header.increment = 0 then 0 else surroundings.toNat + header.increment
  let leastIndent := max (surroundings + 1).toNat 1
  readFrom header.chomping ⟨literal, indent, leastIndent, 0, [], false, 0, false⟩ false cur.rest
    cur.position

end CypherQuery.Yaml.BlockScalar
