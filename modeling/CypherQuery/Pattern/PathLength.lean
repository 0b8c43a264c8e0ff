/-
**How many hops a relationship spans.**

Main definitions:

* `CypherQuery.PathLength` — the lengths, and those that numbers and ranges stand for;
* `CypherQuery.PathLength.render` — how a length is written;
* `CypherQuery.PathLength.check` — **whether a length may be used**: its least number of hops must
  not exceed the greatest, and above a hundred hops a warning is given.
-/

import CypherQuery.Error
import CypherQuery.Log

set_option autoImplicit false

namespace CypherQuery

/-- How many hops a relationship spans. -/
inductive PathLength where
  /-- So many. -/
  | exactly (hops : Nat)
  /-- At least so many and at most so many, where given. -/
  | between (least greatest : Option Nat)
  /-- Any number. -/
  | any
  deriving DecidableEq, Repr

namespace PathLength

/-! ### Lengths of numbers and ranges -/

/-- Exactly so many hops. -/
def fixed (hops : Nat) : PathLength := .exactly hops

/-- At least so many hops, and at most so many. -/
def range (least greatest : Nat) : PathLength := .between (some least) (some greatest)

/-- At least so many hops. -/
def atLeast (least : Nat) : PathLength := .between (some least) none

/-- At most so many hops. -/
def atMost (greatest : Nat) : PathLength := .between none (some greatest)

/-- Any number of hops. -/
def unbounded : PathLength := .any

instance : Coe Nat PathLength := ⟨.exactly⟩

instance : Coe (Std.Rcc Nat) PathLength := ⟨fun span => range span.lower span.upper⟩

instance : Coe (Std.Rci Nat) PathLength := ⟨fun span => atLeast span.lower⟩

instance : Coe (Std.Ric Nat) PathLength := ⟨fun span => atMost span.upper⟩

instance : Coe (Std.Rii Nat) PathLength := ⟨fun _ => .any⟩

/-- The length with the given bounds: any number where neither is given. -/
def ofBounds : Option Nat → Option Nat → PathLength
  | none, none => .any
  | least, greatest => .between least greatest

/-! ### Writing and checking -/

/-- A bound, or nothing. -/
def boundText : Option Nat → String
  | none => ""
  | some n => toString n

/-- How a length is written. -/
def render : PathLength → String
  | .exactly hops => "*" ++ toString hops
  | .between none none => "*"
  | .between least greatest => "*" ++ boundText least ++ ".." ++ boundText greatest
  | .any => "*"

/-- The bounds of a length whose least number of hops exceeds the greatest. -/
def inversion? : PathLength → Option (Nat × Nat)
  | .between (some least) (some greatest) =>
      if greatest < least then some (least, greatest) else none
  | _ => none

/-- The greatest number of hops, if there is one. -/
def greatest? : PathLength → Option Nat
  | .exactly hops => some hops
  | .between _ greatest => greatest
  | .any => none

/-- The greatest number of hops that gives no warning. -/
def warningBound : Nat := 100

/-- The warnings that a length gives. -/
def warnings (length : PathLength) : List LogRecord :=
  match length.greatest? with
  | some hops => if warningBound < hops then [.longPath hops] else []
  | none => []

/-- **Whether a length may be used.** -/
def check (length : PathLength) : Logged BuildError Unit :=
  match length.inversion? with
  | some (least, greatest) => .fail (.invertedLength least greatest)
  | none => ⟨.ok (), length.warnings⟩

end PathLength

end CypherQuery
