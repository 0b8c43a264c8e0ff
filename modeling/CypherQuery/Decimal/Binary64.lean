/-
**Double-precision numbers, by their bits.**

A number of the IEEE 754 format binary64 is held as its 64 bits: a sign, eleven bits of exponent
and fifty-two bits of fraction.  Nothing here computes with such numbers; they are read from
decimal text, compared and written, and all three are done exactly on natural numbers.

Main definitions:

* `CypherQuery.Binary64` — the format;
* `CypherQuery.Binary64.significand`, `CypherQuery.Binary64.scale` — a finite number is
  `significand * 2 ^ scale`, up to its sign;
* `CypherQuery.Binary64.same` — comparison as numbers;
* `CypherQuery.Binary64.ofRatio`, `CypherQuery.Binary64.ofDecimal` — **the nearest number** to a
  quotient of natural numbers and to a decimal fraction.

Main results:

* `CypherQuery.Binary64.not_same_nan` — a number that is not a number differs from itself;
* `CypherQuery.Binary64.same_self` — every other number equals itself.
-/

import CypherQuery.Decimal.Power

set_option autoImplicit false

namespace CypherQuery

/-- A number of the format binary64, by its bits. -/
structure Binary64 where
  /-- The sign bit, eleven bits of exponent and fifty-two bits of fraction. -/
  bits : UInt64
  deriving DecidableEq, Repr, Inhabited

namespace Binary64

/-! ### The parts of a number -/

/-- The bits without the sign. -/
def magnitude (x : Binary64) : Nat := x.bits.toNat % pow2 63

/-- Whether the sign bit is set. -/
def isNegative (x : Binary64) : Bool := pow2 63 ≤ x.bits.toNat

/-- The exponent bits; all of them set mark the infinities and what is not a number. -/
def exponentField (x : Binary64) : Nat := x.magnitude / pow2 52

/-- The fraction bits. -/
def fractionField (x : Binary64) : Nat := x.magnitude % pow2 52

/-- The magnitude of the infinities; smaller magnitudes are finite, larger ones are no numbers. -/
def infinityMagnitude : Nat := 2047 * pow2 52

/-- Whether the bits stand for a finite number. -/
def isFinite (x : Binary64) : Bool := x.magnitude < infinityMagnitude

/-- Whether the bits stand for no number. -/
def isNaN (x : Binary64) : Bool := infinityMagnitude < x.magnitude

/-- Whether the number is zero, of either sign. -/
def isZero (x : Binary64) : Bool := x.magnitude == 0

/-- The number with the given sign and magnitude. -/
def ofMagnitude (negative : Bool) (magnitude : Nat) : Binary64 :=
  ⟨UInt64.ofNat (magnitude + if negative then pow2 63 else 0)⟩

/-- The infinity of the given sign. -/
def infinity (negative : Bool) : Binary64 := ofMagnitude negative infinityMagnitude

/-- What is not a number. -/
def nan : Binary64 := ofMagnitude false (infinityMagnitude + pow2 51)

/-- The whole number that a finite number is a power of two times. -/
def significand (x : Binary64) : Nat :=
  if x.exponentField = 0 then x.fractionField else pow2 52 + x.fractionField

/-- The exponent of two in a finite number. -/
def scale (x : Binary64) : Int := (max x.exponentField 1 : Nat) - 1075

/-- Whether the finite number below is nearer than the one above: so at the powers of two. -/
def isNarrowBelow (x : Binary64) : Bool := x.fractionField == 0 && 1 < x.exponentField

/-! ### Comparison -/

/-- Comparison as numbers: the two zeros are equal, and what is not a number equals nothing. -/
def same (x y : Binary64) : Bool :=
  !x.isNaN && !y.isNaN && (x == y || (x.isZero && y.isZero))

theorem not_same_nan {x : Binary64} (h : x.isNaN = true) (y : Binary64) : x.same y = false := by
  simp [same, h]

theorem same_self {x : Binary64} (h : x.isNaN = false) : x.same x = true := by
  simp [same, h]

/-! ### The nearest number -/

/-- A quotient rounded to the nearest whole number, a tie to the even neighbour. -/
def roundQuotient (num den : Nat) : Nat :=
  let whole := num / den
  let rest := 2 * (num % den)
  if rest < den then whole
  else if den < rest then whole + 1
  else whole + whole % 2

/-- **The number nearest to `num / den`**, a tie to the even significand.

The scale is chosen so that the rounded quotient has fifty-three bits, or fewer at the least
scale; adding the quotient to the shifted exponent then carries into the exponent where the
rounding does, and what passes the largest finite number is an infinity. -/
def ofRatio (negative : Bool) (num den : Nat) : Binary64 :=
  if num = 0 then ofMagnitude negative 0
  else
    let guess : Int := (num.log2 : Int) - den.log2
    let below := num * pow2 (-guess).toNat < den * pow2 guess.toNat
    let scale : Int := max (-1074) ((if below then guess - 1 else guess) - 52)
    let rounded := roundQuotient (num * pow2 (-scale).toNat) (den * pow2 scale.toNat)
    ofMagnitude negative (min infinityMagnitude ((scale + 1074).toNat * pow2 52 + rounded))

/-- **The number nearest to `digits * 10 ^ exponent`.**  A decimal whose leading digit stands far
outside the range of the format is an infinity or a zero; the power of ten is not computed. -/
def ofDecimal (negative : Bool) (digits : Nat) (exponent : Int) : Binary64 :=
  let leading : Int := (toString digits).length + exponent
  if digits = 0 ∨ leading < -400 then ofMagnitude negative 0
  else if 400 < leading then infinity negative
  else ofRatio negative (digits * pow10 exponent.toNat) (pow10 (-exponent).toNat)

end Binary64

end CypherQuery
