/-
**Anchors, aliases, tags and directives.**

Main definitions:

* `CypherQuery.Yaml.NodeName.read` — the name of an anchor or alias;
* `CypherQuery.Yaml.Tag.read` — a tag;
* `CypherQuery.Yaml.Directive.skip` — a directive, which says nothing that is needed here.
-/

import CypherQuery.Yaml.Cursor
import CypherQuery.Yaml.Token

set_option autoImplicit false

namespace CypherQuery.Yaml

/-! ### Anchors and aliases -/

/-- Whether the name of an anchor or alias may end before this text. -/
def NodeName.endsBefore (rest : List Char) : Bool :=
  startsWithSpace rest ||
    match rest with
    | c :: _ => c ∈ ['?', ':', ',', ']', '\x7d', '%', '@', '\x60']
    | [] => true

/-- **The name of an anchor or alias** after its sign. -/
def NodeName.read (cur : Cursor) : Option (String × Cursor) :=
  let name := cur.takeWhile isNameChar
  let cur := cur.skipWhile isNameChar
  if name.isEmpty || !NodeName.endsBefore cur.rest then none else some (String.ofList name, cur)

/-! ### Tags -/

namespace Tag

/-- The characters of a tag other than percent signs. -/
def isTagChar (c : Char) : Bool :=
  isNameChar c ||
    c ∈ [';', '/', '?', ':', '@', '&', '=', '+', '$', ',', '.', '!', '~', '*', '\'', '(', ')',
      '[', ']']

/-- The byte that two digits stand for. -/
def byte? (a b : Char) : Option Nat := do
  let high ← hexValue? a
  let low ← hexValue? b
  return 16 * high + low

/-- What bytes stand for so far. -/
inductive Bytes where
  /-- A character. -/
  | whole (c : Char)
  /-- The first half of a character. -/
  | half (n : Nat)
  deriving DecidableEq, Repr

/-- What a byte stands for, given the half of a character before it.  A byte below 128 is a
character.  A byte from 192 to 223 is the first half of one, the other half is a byte from 128 to
191, and both together are its number. -/
def Bytes.ofByte? (before : Option Nat) (n : Nat) : Option Bytes :=
  match before with
  | none =>
      if n < 128 then some (.whole (Char.ofNat n))
      else if 192 ≤ n ∧ n < 224 then some (.half n)
      else none
  | some m => if 128 ≤ n ∧ n < 192 then (charOfCode? (256 * m + n)).map .whole else none

/-- The characters of a tag.  A percent sign and two digits stand for a byte; after the first half
of a character, which is given, only such a byte may come. -/
def suffixFrom (done : List Char) (before : Option Nat) :
    List Char → Position → Option (List Char × Cursor)
  | '%' :: a :: b :: rest, p =>
      let p := ((p.after '%').after a).after b
      match (byte? a b).bind (Bytes.ofByte? before) with
      | some (.whole c) => suffixFrom (c :: done) none rest p
      | some (.half n) => suffixFrom done (some n) rest p
      | none => none
  | [], p => if before.isSome then none else some (done.reverse, ⟨[], p⟩)
  | c :: rest, p =>
      if before.isSome || c == '%' then none
      else if isTagChar c then suffixFrom (c :: done) none rest (p.after c)
      else some (done.reverse, ⟨c :: rest, p⟩)

/-- The rest of a tag, after the characters that were read with its handle. -/
def readSuffix (done : List Char) (cur : Cursor) : Option (List Char × Cursor) :=
  suffixFrom done.reverse none cur.rest cur.position

/-- A handle: an exclamation mark, a name, and possibly another exclamation mark.  Returned are the
name, and whether the second mark is there. -/
def readHandle (cur : Cursor) : Option (List Char × Bool × Cursor) :=
  match cur.rest with
  | '!' :: _ =>
      let cur := cur.skip 1
      let name := cur.takeWhile isNameChar
      let cur := cur.skipWhile isNameChar
      if cur.rest.head? == some '!' then some (name, true, cur.skip 1) else some (name, false, cur)
  | _ => none

/-- A tag within angle brackets, after the first of them. -/
def readVerbatim (cur : Cursor) : Option (Tag × Cursor) := do
  let (suffix, cur) ← readSuffix [] cur
  if suffix.isEmpty || cur.rest.head? != some '>' then none
  else some (⟨"", String.ofList suffix⟩, cur.skip 1)

/-- A tag of a handle and a suffix. -/
def readShorthand (cur : Cursor) : Option (Tag × Cursor) := do
  let (name, isClosed, cur) ← readHandle cur
  if isClosed then
    let (suffix, cur) ← readSuffix [] cur
    if suffix.isEmpty then none
    else some (⟨String.ofList ('!' :: name ++ ['!']), String.ofList suffix⟩, cur)
  else
    let (suffix, cur) ← readSuffix name cur
    if suffix.isEmpty then some (⟨"", "!"⟩, cur)
    else some (⟨"!", String.ofList suffix⟩, cur)

/-- **A tag**; a blank, a line break or the end of the text follows it. -/
def read (cur : Cursor) : Option (Tag × Cursor) := do
  let (tag, cur) ← match cur.rest with
    | _ :: '<' :: _ => readVerbatim (cur.skip 2)
    | _ => readShorthand cur
  if startsWithSpace cur.rest then some (tag, cur) else none

end Tag

/-! ### Directives -/

namespace Directive

/-- A number of a version, of at most nine digits. -/
def skipNumber (cur : Cursor) : Option Cursor :=
  let digits := cur.takeWhile Char.isDigit
  if digits.isEmpty || 9 < digits.length then none else some (cur.skipWhile Char.isDigit)

/-- The version of the language: two numbers with a point between them. -/
def skipVersion (cur : Cursor) : Option Cursor := do
  let cur ← skipNumber (cur.skipWhile isGap)
  if cur.rest.head? == some '.' then skipNumber (cur.skip 1) else none

/-- The meaning of a handle. -/
def skipTag (cur : Cursor) : Option Cursor := do
  let (name, isClosed, cur) ← Tag.readHandle (cur.skipWhile isGap)
  if !isClosed && !name.isEmpty then none
  else
    let (suffix, cur) ← Tag.readSuffix [] (cur.skipWhile isGap)
    if !suffix.isEmpty && startsWithSpace cur.rest then some cur else none

/-- **A directive**, with the line break at its end, after its percent sign. -/
def skip (cur : Cursor) : Option Cursor := do
  let name := cur.takeWhile isNameChar
  let cur := cur.skipWhile isNameChar
  if name.isEmpty || !startsWithSpace cur.rest then none
  else
    let cur ←
      if name == ['Y', 'A', 'M', 'L'] then skipVersion cur
      else if name == ['T', 'A', 'G'] then skipTag cur
      else some (cur.skipWhile fun c => !isBreak c)
    let cur ← cur.skipToLineEnd?
    return cur.skipBreak

end Directive

end CypherQuery.Yaml
