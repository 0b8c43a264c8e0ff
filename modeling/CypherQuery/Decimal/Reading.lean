/-
**Reading decimal text.**

The text of a number is an optional sign, digits with an optional point among them, and an
optional exponent.  At least one digit stands before the exponent, on either side of the point.
The words `inf`, `infinity` and `nan`, in any mixture of cases, are read too.

Main definitions:

* `CypherQuery.Decimal.Numeral` — the parts of such a text;
* `CypherQuery.Decimal.Numeral.read?` — **the parts, if the text is of that form**;
* `CypherQuery.Binary64.read?` — the nearest double.
-/

import CypherQuery.Decimal.Binary64

set_option autoImplicit false

namespace CypherQuery

namespace Decimal

/-- The value of a run of decimal digits. -/
def digitsValue (cs : List Char) : Nat :=
  cs.foldl (fun n c => 10 * n + (c.toNat - '0'.toNat)) 0

/-- A sign at the head of a text: whether it is a minus, and the rest. -/
def takeSign : List Char → Bool × List Char
  | '-' :: cs => (true, cs)
  | '+' :: cs => (false, cs)
  | cs => (false, cs)

/-- The exponent part at the end of a numeral: nothing, or a letter `e`, an optional sign, and
digits. -/
def readExponent? : List Char → Option Int
  | [] => some 0
  | c :: cs =>
      if c == 'e' || c == 'E' then
        let (negative, digits) := takeSign cs
        if digits.isEmpty || !digits.all Char.isDigit then none
        else
          let n : Int := digitsValue digits
          some (if negative then -n else n)
      else none

/-- The parts of a numeral: the sign, all digits as a whole number, and the exponent of ten. -/
structure Numeral where
  /-- Whether a minus stands in front. -/
  negative : Bool
  /-- The digits on both sides of the point. -/
  digits : Nat
  /-- The exponent, less the number of digits after the point. -/
  exponent : Int
  deriving DecidableEq, Repr

/-- **The parts of a numeral**, if the text is one. -/
def Numeral.read? (cs : List Char) : Option Numeral :=
  let (negative, rest) := takeSign cs
  let whole := rest.takeWhile Char.isDigit
  let afterWhole := rest.dropWhile Char.isDigit
  let (fraction, afterFraction) := match afterWhole with
    | '.' :: more => (more.takeWhile Char.isDigit, more.dropWhile Char.isDigit)
    | more => ([], more)
  if whole.isEmpty && fraction.isEmpty then none
  else
    (readExponent? afterFraction).map fun e =>
      ⟨negative, digitsValue (whole ++ fraction), e - fraction.length⟩

end Decimal

namespace Binary64

/-- The double that a word stands for, if it is one of the three words. -/
def ofWord? (cs : List Char) : Option Binary64 :=
  let (negative, rest) := Decimal.takeSign cs
  let word := String.ofList (rest.map Char.toLower)
  if word == "inf" || word == "infinity" then some (infinity negative)
  else if word == "nan" then some nan
  else none

/-- The double nearest to a numeral. -/
def ofNumeral (n : Decimal.Numeral) : Binary64 := ofDecimal n.negative n.digits n.exponent

/-- The double that a text stands for: the nearest one to a numeral, or a word. -/
def read? (text : String) : Option Binary64 :=
  ((Decimal.Numeral.read? text.toList).map ofNumeral).or (ofWord? text.toList)

end Binary64

end CypherQuery
