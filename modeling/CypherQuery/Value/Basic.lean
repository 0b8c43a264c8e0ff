/-
**Values: what a parameter can hold.**

A value is null, a truth value, a whole number, a double, a text, a list, or a dictionary.  Whole
numbers and doubles are different even where they stand for the same number.

Two values are the *same* when they differ in nothing but the order of dictionary keys and the
sign of zeros.  The comparison brings both into a canonical form, with sorted keys and positive
zeros; so it is an equivalence for free.

Main definitions:

* `CypherQuery.Value` — the values;
* `CypherQuery.Value.canonical` — sorted keys, positive zeros;
* `CypherQuery.Value.same` — **comparison of values**.

Main results:

* `CypherQuery.Value.same_self`, `CypherQuery.Value.same_comm` — the comparison is reflexive and
  symmetric;
* `CypherQuery.Value.instDecidableEq` — equality to the letter is decidable.
-/

import CypherQuery.Dictionary
import CypherQuery.Decimal.Binary64

set_option autoImplicit false

namespace CypherQuery

/-- What a parameter can hold. -/
inductive Value where
  /-- The absence of a value. -/
  | null
  /-- A truth value. -/
  | bool (b : Bool)
  /-- A whole number. -/
  | integer (n : Int)
  /-- A double. -/
  | double (x : Binary64)
  /-- A text. -/
  | text (s : String)
  /-- A list of values. -/
  | list (items : List Value)
  /-- A dictionary of values. -/
  | dictionary (entries : List (String × Value))
  deriving Repr, Inhabited

namespace Value

/-! ### Equality to the letter -/

mutual

/-- Whether two values are equal to the letter. -/
def beq : Value → Value → Bool
  | .null, .null => true
  | .bool a, .bool b => a == b
  | .integer a, .integer b => a == b
  | .double a, .double b => a == b
  | .text a, .text b => a == b
  | .list a, .list b => beqItems a b
  | .dictionary a, .dictionary b => beqEntries a b
  | _, _ => false

/-- Whether two lists of values are equal to the letter. -/
def beqItems : List Value → List Value → Bool
  | [], [] => true
  | a :: as, b :: bs => beq a b && beqItems as bs
  | _, _ => false

/-- Whether two lists of entries are equal to the letter. -/
def beqEntries : List (String × Value) → List (String × Value) → Bool
  | [], [] => true
  | (k, a) :: as, (l, b) :: bs => k == l && beq a b && beqEntries as bs
  | _, _ => false

end

mutual

theorem beq_iff : ∀ a b : Value, beq a b = true ↔ a = b
  | .null, b => by cases b <;> simp [beq]
  | .bool a, b => by cases b <;> simp [beq]
  | .integer a, b => by cases b <;> simp [beq]
  | .double a, b => by cases b <;> simp [beq]
  | .text a, b => by cases b <;> simp [beq]
  | .list a, b => by
      cases b <;> simp [beq]
      exact beqItems_iff a _
  | .dictionary a, b => by
      cases b <;> simp [beq]
      exact beqEntries_iff a _

theorem beqItems_iff : ∀ a b : List Value, beqItems a b = true ↔ a = b
  | [], b => by cases b <;> simp [beqItems]
  | a :: as, b => by
      cases b with
      | nil => simp [beqItems]
      | cons b bs => simp [beqItems, beq_iff a b, beqItems_iff as bs]

theorem beqEntries_iff : ∀ a b : List (String × Value), beqEntries a b = true ↔ a = b
  | [], b => by cases b <;> simp [beqEntries]
  | (k, a) :: as, b => by
      cases b with
      | nil => simp [beqEntries]
      | cons e bs =>
          obtain ⟨l, b⟩ := e
          simp [beqEntries, beq_iff a b, beqEntries_iff as bs]

end

instance instDecidableEq : DecidableEq Value := fun a b => decidable_of_iff _ (beq_iff a b)

/-! ### Comparison of values -/

/-- Puts an entry in front of the first one with a larger key. -/
def insertSorted (e : String × Value) : List (String × Value) → List (String × Value)
  | [] => [e]
  | f :: rest => if f.1 < e.1 then f :: insertSorted e rest else e :: f :: rest

mutual

/-- A value with sorted keys and positive zeros throughout. -/
def canonical : Value → Value
  | .double x => .double (if x.isZero then ⟨0⟩ else x)
  | .list items => .list (canonicalItems items)
  | .dictionary entries => .dictionary (canonicalEntries entries)
  | v => v

/-- The items of a list in canonical form. -/
def canonicalItems : List Value → List Value
  | [] => []
  | v :: rest => canonical v :: canonicalItems rest

/-- The entries of a dictionary in canonical form, sorted by their keys. -/
def canonicalEntries : List (String × Value) → List (String × Value)
  | [] => []
  | (k, v) :: rest => insertSorted (k, canonical v) (canonicalEntries rest)

end

/-- **Comparison of values**: the order of dictionary keys and the sign of zeros do not count. -/
def same (a b : Value) : Bool := decide (a.canonical = b.canonical)

theorem same_self (a : Value) : a.same a = true := by simp [same]

theorem same_comm (a b : Value) : a.same b = b.same a := by
  simp only [same, eq_comm]

end Value

end CypherQuery
