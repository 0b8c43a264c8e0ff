/-
**The shortest decimal that reads back.**

A finite double stands for all the reals that round to it.  Among the decimals in that interval
the ones with the fewest digits are the shortest, and of those the nearest to the number is
selected; when two are equally near, a rule decides.

The search takes the grids of one digit, two digits and so on, and on each grid looks at the two
neighbours of the number.  Everything is compared exactly, as products of natural numbers.

Main definitions:

* `CypherQuery.Decimal` — a decimal fraction, as digits and an exponent of ten;
* `CypherQuery.Binary64.readsBack` — the decimals that round to a number;
* `CypherQuery.Binary64.shortest` — **the selected decimal**.
-/

import CypherQuery.Decimal.Binary64

set_option autoImplicit false

namespace CypherQuery

/-- The decimal fraction `digits * 10 ^ exponent`. -/
structure Decimal where
  /-- The digits, as a whole number. -/
  digits : Nat
  /-- The exponent of ten. -/
  exponent : Int
  deriving DecidableEq, Repr

namespace Decimal

/-- How a tie between two equally near decimals is broken. -/
inductive Tie where
  /-- The one whose last digit is even. -/
  | toEven
  /-- The larger one. -/
  | up
  deriving DecidableEq, Repr

/-- How many decimal digits a whole number has. -/
def digitCount (n : Nat) : Nat := (toString n).length

/-- A decimal without the zeros at the end of its digits.  The first argument bounds the number of
zeros removed. -/
def stripZerosUpTo : Nat → Decimal → Decimal
  | 0, d => d
  | bound + 1, d =>
      if d.digits ≠ 0 ∧ d.digits % 10 = 0 then
        stripZerosUpTo bound ⟨d.digits / 10, d.exponent + 1⟩
      else d

/-- A decimal without the zeros at the end of its digits. -/
def stripZeros (d : Decimal) : Decimal := stripZerosUpTo (digitCount d.digits) d

/-- The comparison of a decimal with `n * 2 ^ k`. -/
def compareScaled (d : Decimal) (n : Nat) (k : Int) : Ordering :=
  compare (d.digits * pow10 d.exponent.toNat * pow2 (-k).toNat)
    (n * pow2 k.toNat * pow10 (-d.exponent).toNat)

end Decimal

namespace Binary64

/-- **The decimals that round to a number**: those between the midpoints to its two neighbours.
The midpoints themselves belong to the number when its significand is even. -/
def readsBack (x : Binary64) (d : Decimal) : Bool :=
  let low := 4 * x.significand - (if x.isNarrowBelow then 1 else 2)
  let high := 4 * x.significand + 2
  let closed := x.significand % 2 == 0
  let atLow := d.compareScaled low (x.scale - 2)
  let atHigh := d.compareScaled high (x.scale - 2)
  (atLow == .gt || (closed && atLow == .eq)) && (atHigh == .lt || (closed && atHigh == .eq))

/-- The exponent of ten at the leading digit of a positive finite number.  Every such number is
above `10 ^ (-400)`, so the number of digits of its whole part after a shift by 400 places tells
the exponent. -/
def leadingExponent (x : Binary64) : Int :=
  let shifted := x.significand * pow10 400 * pow2 x.scale.toNat / pow2 (-x.scale).toNat
  (Decimal.digitCount shifted : Int) - 401

/-- The neighbours of a number on the grid of the multiples of `10 ^ exponent`: the whole part of
the quotient, and how twice the rest compares with the step. -/
def gridPosition (x : Binary64) (exponent : Int) : Nat × Ordering :=
  let num := x.significand * pow2 x.scale.toNat * pow10 (-exponent).toNat
  let den := pow2 (-x.scale).toNat * pow10 exponent.toNat
  (num / den, compare (2 * (num % den)) den)

/-- The candidate on a grid, if a neighbour of the number reads back: the nearer of the two, a tie
as the rule says. -/
def candidate (tie : Decimal.Tie) (x : Binary64) (exponent : Int) : Option Decimal :=
  let (below, side) := x.gridPosition exponent
  let lower : Decimal := ⟨below, exponent⟩
  let upper : Decimal := ⟨below + 1, exponent⟩
  let takeUpper : Bool := match side with
    | .lt => false
    | .gt => true
    | .eq => match tie with
      | .toEven => below % 2 == 1
      | .up => true
  match x.readsBack lower, x.readsBack upper with
  | true, true => some (if takeUpper then upper else lower)
  | true, false => some lower
  | false, true => some upper
  | false, false => none

/-- The number written out in full, as a decimal. -/
def exactDecimal (x : Binary64) : Decimal :=
  ⟨x.significand * pow2 x.scale.toNat * Nat.pow 5 (-x.scale).toNat, min x.scale 0⟩

/-- **The shortest decimal that reads back**, the nearest of those, without zeros at its end.
Seventeen digits always suffice. -/
def shortest (tie : Decimal.Tie) (x : Binary64) : Decimal :=
  let lead := x.leadingExponent
  let found := (List.range 17).findSome? fun extra : Nat => x.candidate tie (lead - extra)
  (found.getD x.exactDecimal).stripZeros

end Binary64

end CypherQuery
