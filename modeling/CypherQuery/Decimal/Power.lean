/-
**Powers of two and of ten.**

Main definitions:

* `CypherQuery.pow2`, `CypherQuery.pow10` — the powers.
-/

set_option autoImplicit false

namespace CypherQuery

/-- The powers of two. -/
def pow2 (k : Nat) : Nat := Nat.pow 2 k

/-- The powers of ten. -/
def pow10 (k : Nat) : Nat := Nat.pow 10 k

theorem pow2_zero : pow2 0 = 1 := rfl

theorem pow2_succ (k : Nat) : pow2 (k + 1) = pow2 k * 2 := rfl

theorem pow10_zero : pow10 0 = 1 := rfl

theorem pow10_succ (k : Nat) : pow10 (k + 1) = pow10 k * 10 := rfl

end CypherQuery
