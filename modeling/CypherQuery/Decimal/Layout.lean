/-
**The layout of decimal text.**

A double is written with its shortest digits, positionally when the exponent of its leading digit
lies in a range, and with an exponent otherwise.  Positional text always has a point and a digit
after it.  What differs from one format to another is one record.

Main definitions:

* `CypherQuery.Decimal.Layout` — the decisions of a format;
* `CypherQuery.Decimal.Layout.write` — **the text of a finite double**.
-/

import CypherQuery.Decimal.Shortest

set_option autoImplicit false

namespace CypherQuery.Decimal

/-- The decisions of a decimal format. -/
structure Layout where
  /-- The least exponent of the leading digit that is written positionally. -/
  plainFrom : Int
  /-- The least exponent above `plainFrom` that is not. -/
  plainBelow : Int
  /-- Whether a positive exponent has a sign. -/
  plusSign : Bool
  /-- Which of two equally near decimals is written. -/
  tie : Tie

namespace Layout

/-- A decimal written positionally, with a point. -/
def positional (d : Decimal) (digits : String) : String :=
  let places := (-d.exponent).toNat
  if d.exponent ≥ 0 then digits ++ String.ofList (List.replicate d.exponent.toNat '0') ++ ".0"
  else if digits.length ≤ places then
    "0." ++ String.ofList (List.replicate (places - digits.length) '0') ++ digits
  else
    let cs := digits.toList
    String.ofList (cs.take (cs.length - places) ++ '.' :: cs.drop (cs.length - places))

/-- A decimal written with one digit before the point and an exponent. -/
def scientific (layout : Layout) (lead : Int) (digits : String) : String :=
  let mantissa := match digits.toList with
    | [] => ""
    | [c] => String.ofList [c]
    | c :: cs => String.ofList (c :: '.' :: cs)
  mantissa ++ "e" ++ (if layout.plusSign && lead ≥ 0 then "+" else "") ++ toString lead

/-- A decimal in the layout of a format. -/
def writeDecimal (layout : Layout) (d : Decimal) : String :=
  let digits := toString d.digits
  let lead := d.exponent + digits.length - 1
  if layout.plainFrom ≤ lead ∧ lead < layout.plainBelow then positional d digits
  else scientific layout lead digits

/-- **The text of a finite double.**  Zero keeps its sign. -/
def write (layout : Layout) (x : Binary64) : String :=
  let text := if x.isZero then "0.0" else writeDecimal layout (x.shortest layout.tie)
  if x.isNegative then "-" ++ text else text

end Layout

end CypherQuery.Decimal
