/-
**Names for one build.**

Variables and parameters have names of their own, so there are two pools of names.  A pool holds
the names that are taken and a counter for generated names.  An explicit name is claimed as it
stands, and a name that is taken cannot be claimed again.  A generated name is the prefix of the
build, a stem and a number: the least number from the counter on whose name is free.  The counter
then stands behind that number, and is shared by all stems.

Main definitions:

* `CypherQuery.NamePool`, `CypherQuery.Names` — one pool, and the two pools of a build;
* `CypherQuery.NamePool.leastFree` — the search for a free name;
* `CypherQuery.Names.claim`, `CypherQuery.Names.generate` — **explicit and generated names**.
-/

import CypherQuery.Error

set_option autoImplicit false

namespace CypherQuery

/-- The names of one class. -/
structure NamePool where
  /-- The first number to try for a generated name. -/
  next : Nat
  /-- The names handed out, the latest first. -/
  taken : List String
  deriving DecidableEq, Repr

namespace NamePool

/-- A pool from which no name was taken. -/
def empty : NamePool := ⟨0, []⟩

/-- Takes a name, unless it is taken. -/
def claim? (pool : NamePool) (name : String) : Option NamePool :=
  if name ∈ pool.taken then none else some { pool with taken := name :: pool.taken }

/-- The first number from `k` on whose name is free, if there is one among the first `bound`
numbers, and the number after them otherwise. -/
def leastFree (name : Nat → String) (taken : List String) : Nat → Nat → Nat
  | 0, k => k
  | bound + 1, k => if name k ∈ taken then leastFree name taken bound (k + 1) else k

/-- Takes the first free name from the counter on.  As many numbers are tried as names are taken:
different numbers have different names, so the number after them is free. -/
def generate (pool : NamePool) (name : Nat → String) : String × NamePool :=
  let k := leastFree name pool.taken pool.taken.length pool.next
  (name k, ⟨k + 1, name k :: pool.taken⟩)

end NamePool

/-- The names of one build. -/
structure Names where
  /-- What generated names begin with. -/
  namePrefix : String
  /-- The names of variables. -/
  variableNames : NamePool
  /-- The names of parameters. -/
  parameterNames : NamePool
  deriving DecidableEq, Repr

namespace Names

/-- No names. -/
def empty (namePrefix : String) : Names := ⟨namePrefix, .empty, .empty⟩

/-- The pool of a class. -/
def pool (names : Names) : NameClass → NamePool
  | .variableName => names.variableNames
  | .parameterName => names.parameterNames

/-- The names with another pool for a class. -/
def setPool (names : Names) (nameClass : NameClass) (pool : NamePool) : Names :=
  match nameClass with
  | .variableName => { names with variableNames := pool }
  | .parameterName => { names with parameterNames := pool }

/-- The generated name with a given stem and number. -/
def generated (namePrefix stem : String) (k : Nat) : String := namePrefix ++ stem ++ toString k

/-- **Takes an explicit name.** -/
def claim (names : Names) (nameClass : NameClass) (name : String) : Except BuildError Names :=
  match (names.pool nameClass).claim? name with
  | some pool => .ok (names.setPool nameClass pool)
  | none => .error (.nameCollision name nameClass)

/-- **Takes the next free generated name.** -/
def generate (names : Names) (nameClass : NameClass) (stem : String) : String × Names :=
  let r := (names.pool nameClass).generate (generated names.namePrefix stem)
  (r.1, names.setPool nameClass r.2)

end Names

end CypherQuery
