/-
**What scalars stand for.**

A plain scalar without a tag stands for null, a truth value, a number or its text, by its
spelling.  Whole numbers may be decimal, hexadecimal, octal or binary.  A decimal number that starts
with a superfluous zero is a text, and so is a number of another radix that has more than 64 bits.
Every other scalar without a tag stands for its text.  The tags for truth values, whole numbers,
doubles and null demand a fitting spelling, and every other tag leaves the text.

Main definitions:

* `CypherQuery.Yaml.Resolved` — what a scalar can stand for;
* `CypherQuery.Yaml.resolvePlain` — the rule for plain scalars without a tag;
* `CypherQuery.Yaml.Scalar.resolve?` — **what a scalar stands for**.
-/

import CypherQuery.Decimal.Reading
import CypherQuery.Value.Basic
import CypherQuery.Yaml.Cursor
import CypherQuery.Yaml.Token

set_option autoImplicit false

namespace CypherQuery.Yaml

/-- What a scalar can stand for. -/
inductive Resolved where
  /-- The absence of a value. -/
  | null
  /-- A truth value. -/
  | bool (b : Bool)
  /-- A whole number from −2⁶³ to 2⁶⁴ − 1. -/
  | integer (n : Int)
  /-- A whole number beyond that range. -/
  | hugeInteger
  /-- A double. -/
  | double (x : Binary64)
  /-- A text. -/
  | text (s : String)
  deriving DecidableEq, Repr

/-- The value that is read; a double that is no finite number reads as null. -/
def Resolved.toValue? : Resolved → Option Value
  | .null => some .null
  | .bool b => some (.bool b)
  | .integer n => some (.integer n)
  | .hugeInteger => none
  | .double x => some (if x.isFinite then .double x else .null)
  | .text s => some (.text s)

/-! ### Whole numbers -/

/-- The number that digits of a radix stand for; there must be one. -/
def digitsIn? (radix : Nat) (cs : List Char) : Option Nat :=
  if cs.isEmpty then none
  else
    cs.foldlM
      (fun n c => do
        let digit ← hexValue? c
        if digit < radix then some (radix * n + digit) else none)
      0

/-- A whole number without a minus; it may have at most 128 bits. -/
def ofMagnitude? (n : Nat) : Option Resolved :=
  if n < pow2 64 then some (.integer n) else if n < pow2 128 then some .hugeInteger else none

/-- A whole number with a minus; it may have at most 128 bits. -/
def ofNegated? (n : Nat) : Option Resolved :=
  if n ≤ pow2 63 then some (.integer (-(n : Int)))
  else if n ≤ pow2 127 then some .hugeInteger
  else none

/-- A text without a plus in front. -/
def dropPlus : List Char → List Char
  | '+' :: cs => cs
  | cs => cs

/-- The radix that the letter after a zero stands for. -/
def radixOf? : Char → Option Nat
  | 'x' => some 16
  | 'o' => some 8
  | 'b' => some 2
  | _ => none

/-- A whole number whose radix is given by a zero and a letter; it may have at most 64 bits. -/
def readRadix? (cs : List Char) : Option Int :=
  match cs with
  | '-' :: '0' :: letter :: digits => do
      let radix ← radixOf? letter
      let n ← digitsIn? radix digits
      if n ≤ pow2 63 then some (-(n : Int)) else none
  | cs =>
      match dropPlus cs with
      | '0' :: letter :: digits => do
          let radix ← radixOf? letter
          let n ← digitsIn? radix (dropPlus digits)
          if n < pow2 64 then some (n : Int) else none
      | _ => none

/-- Whether a text is made of digits, of which the first is a superfluous zero, after a sign. -/
def hasSuperfluousZero (cs : List Char) : Bool :=
  match (Decimal.takeSign cs).2 with
  | '0' :: c :: rest => (c :: rest).all Char.isDigit
  | _ => false

/-- A decimal whole number. -/
def readDecimal? (cs : List Char) : Option Resolved :=
  match cs with
  | '-' :: digits => (digitsIn? 10 digits).bind ofNegated?
  | cs => (digitsIn? 10 (dropPlus cs)).bind ofMagnitude?

/-! ### Doubles -/

/-- The spellings of the infinities and of what is not a number. -/
def readNonFinite? (cs : List Char) : Option Binary64 :=
  let positive := String.ofList (cs.dropWhile (· == '+'))
  let word := String.ofList cs
  if positive ∈ [".inf", ".Inf", ".INF"] then some (Binary64.infinity false)
  else if word ∈ ["-.inf", "-.Inf", "-.INF"] then some (Binary64.infinity true)
  else if word ∈ [".nan", ".NaN", ".NAN"] then some Binary64.nan
  else none

/-- A finite double. -/
def readFinite? (text : String) : Option Binary64 := (Binary64.read? text).filter Binary64.isFinite

/-! ### Scalars -/

/-- The texts that stand for null. -/
def isNullText (text : String) : Bool := text == "~" || text == "null"

/-- **What a plain scalar without a tag stands for.** -/
def resolvePlain (text : String) : Resolved :=
  let cs := text.toList
  if isNullText text then .null
  else if text = "true" then .bool true
  else if text = "false" then .bool false
  else
    match readRadix? cs with
    | some n => .integer n
    | none =>
        if hasSuperfluousZero cs then .text text
        else
          match readDecimal? cs with
          | some r => r
          | none =>
              match readNonFinite? cs with
              | some x => .double x
              | none =>
                  match readFinite? text with
                  | some x => .double x
                  | none => .text text

/-- A whole number of 64 bits with a sign. -/
def readTaggedInteger? (text : String) : Option Resolved :=
  let (negative, digits) := Decimal.takeSign text.toList
  match digitsIn? 10 digits with
  | none => none
  | some n =>
      if negative then if n ≤ pow2 63 then some (.integer (-(n : Int))) else none
      else if n < pow2 63 then some (.integer n) else none

/-- What a text stands for under a standard tag. -/
def resolveTagged? (suffix text : String) : Option Resolved :=
  if suffix = "bool" then
    if text = "true" then some (.bool true)
    else if text = "false" then some (.bool false)
    else none
  else if suffix = "int" then readTaggedInteger? text
  else if suffix = "float" then (Binary64.read? text).map .double
  else if suffix = "null" then if isNullText text then some .null else none
  else some (.text text)

/-- **What a scalar stands for**, if its spelling fits its tag. -/
def Scalar.resolve? (s : Scalar) : Option Resolved :=
  match s.tag with
  | some tag => if tag.handle = "!!" then resolveTagged? tag.suffix s.text else some (.text s.text)
  | none => some (if s.isPlain then resolvePlain s.text else .text s.text)

end CypherQuery.Yaml
