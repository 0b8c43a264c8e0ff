/-
**The search for a free name, without a bound.**

A generated name is searched turn by turn: the candidate at the counter is tried, the counter moves
on, and the first candidate that is free ends the search.  Nothing in a turn says that there is a
last one.  But different numbers have different names, and only so many names are taken: every turn
that is not the last one meets another of them.  So the search ends after at most one turn more than
there are taken names, wherever the counter stands and whatever the taken names look like, and it
ends at the least number from the counter on whose name is free.  The search with a bound by which
names are generated comes to the same.

Main definitions:

* `CypherQuery.NamePool.turn` — one turn of the search;
* `CypherQuery.NamePool.Finds` — **a whole search**, with the number of its turns;
* `CypherQuery.NamePool.freeNumbers` — the numbers from the counter on whose names are free.

Main results:

* `CypherQuery.NamePool.finds_of_isLeast`, `CypherQuery.NamePool.Finds.unique` — **a search ends at
  the least free number**, and in no other way;
* `CypherQuery.NamePool.sub_le_card` — it passes over no more numbers than names are taken;
* `CypherQuery.Names.generate_least_free` — **what generating a name comes to**.
-/

import CypherQuery.Proofs.FreshNames
import Mathlib.Data.Finset.Card
import Mathlib.Order.Bounds.Basic
import Mathlib.Order.Interval.Finset.Nat

set_option autoImplicit false

namespace CypherQuery

namespace NamePool

/-! ### Turns of a search -/

/-- **One turn of the search**: the counter moves on, and the name that belongs to its old value is
taken, if it is free. -/
def turn (name : Nat → String) (pool : NamePool) : Option String × NamePool :=
  let moved : NamePool := { pool with next := pool.next + 1 }
  match moved.claim? (name pool.next) with
  | some after => (some (name pool.next), after)
  | none => (none, moved)

/-- **A whole search**: the number of its turns, and the name that it finds with the pool that it
leaves. -/
inductive Finds (name : Nat → String) : NamePool → Nat → String × NamePool → Prop where
  /-- The turn finds a name. -/
  | last {pool after : NamePool} {found : String} (h : turn name pool = (some found, after)) :
      Finds name pool 1 (found, after)
  /-- The turn finds none, and the search goes on. -/
  | again {pool moved : NamePool} {turns : Nat} {r : String × NamePool}
      (h : turn name pool = (none, moved)) (hrest : Finds name moved turns r) :
      Finds name pool (turns + 1) r

section

variable {name : Nat → String} {pool : NamePool}

theorem turn_of_mem (h : name pool.next ∈ pool.taken) :
    turn name pool = (none, ⟨pool.next + 1, pool.taken⟩) := by
  simp [turn, claim?, h]

theorem turn_of_not_mem (h : name pool.next ∉ pool.taken) :
    turn name pool = (some (name pool.next), ⟨pool.next + 1, name pool.next :: pool.taken⟩) := by
  simp [turn, claim?, h]

/-- **A search ends in one way only.** -/
theorem Finds.unique {m n : Nat} {r s : String × NamePool} (h : Finds name pool m r)
    (h' : Finds name pool n s) : m = n ∧ r = s := by
  induction h generalizing n with
  | last h =>
      cases h' with
      | last h' =>
          rw [h] at h'
          cases h'
          exact ⟨rfl, rfl⟩
      | again h' _ =>
          rw [h] at h'
          cases h'
  | again h _ ih =>
      cases h' with
      | last h' =>
          rw [h] at h'
          cases h'
      | again h' hrest =>
          rw [h] at h'
          cases h'
          obtain ⟨hturns, hr⟩ := ih hrest
          exact ⟨congrArg (· + 1) hturns, hr⟩

/-! ### The least free number -/

/-- The numbers from the counter on whose names are free. -/
def freeNumbers (name : Nat → String) (pool : NamePool) : Set Nat :=
  {k | pool.next ≤ k ∧ name k ∉ pool.taken}

/-- The names in front of the least free number are taken. -/
theorem mem_taken_of_lt {k j : Nat} (h : IsLeast (freeNumbers name pool) k) (hj : pool.next ≤ j)
    (hlt : j < k) : name j ∈ pool.taken := by
  by_contra hfree
  have hle : k ≤ j := h.2 ⟨hj, hfree⟩
  omega

/-- **A search ends at the least free number**, after one turn for each number that it passes over
and one more. -/
theorem finds_of_isLeast {k passed : Nat} (h : IsLeast (freeNumbers name pool) k)
    (hpassed : pool.next + passed = k) :
    Finds name pool (passed + 1) (name k, ⟨k + 1, name k :: pool.taken⟩) := by
  induction passed generalizing pool with
  | zero =>
      subst hpassed
      exact .last (turn_of_not_mem h.1.2)
  | succ passed ih =>
      have htaken : name pool.next ∈ pool.taken := mem_taken_of_lt h (Nat.le_refl _) (by omega)
      have hmoved : IsLeast (freeNumbers name ⟨pool.next + 1, pool.taken⟩) k :=
        ⟨⟨show pool.next + 1 ≤ k by omega, h.1.2⟩,
          fun j hj => h.2 ⟨Nat.le_of_succ_le hj.1, hj.2⟩⟩
      exact .again (turn_of_mem htaken) (ih hmoved (show pool.next + 1 + passed = k by omega))

/-- The search with a bound stops at the least free number. -/
theorem isLeast_leastFree (hname : Function.Injective name) (pool : NamePool) :
    IsLeast (freeNumbers name pool) (leastFree name pool.taken pool.taken.length pool.next) := by
  refine ⟨⟨(leastFree_bounds _ _ _ _).1, leastFree_free hname _ _⟩, ?_⟩
  rintro j ⟨hj, hfree⟩
  by_contra hlt
  exact hfree (mem_of_lt_leastFree hj (Nat.not_le.1 hlt))

/-- **A search passes over no more numbers than names are taken**: their names are different, and
all of them are taken. -/
theorem sub_le_card (hname : Function.Injective name) {k : Nat}
    (h : IsLeast (freeNumbers name pool) k) : k - pool.next ≤ pool.taken.toFinset.card := by
  have hsub : (Finset.Ico pool.next k).image name ⊆ pool.taken.toFinset := by
    intro s hs
    obtain ⟨j, hj, rfl⟩ := Finset.mem_image.1 hs
    obtain ⟨hle, hlt⟩ := Finset.mem_Ico.1 hj
    exact List.mem_toFinset.2 (mem_taken_of_lt h hle hlt)
  calc k - pool.next
      = ((Finset.Ico pool.next k).image name).card := by
        rw [Finset.card_image_of_injective _ hname, Nat.card_Ico]
    _ ≤ pool.taken.toFinset.card := Finset.card_le_card hsub

end

end NamePool

/-! ### Generating a name -/

namespace Names

open NamePool

/-- The pools after a name is generated: that of its class has moved on to the number behind it. -/
theorem generate_of_isLeast {names : Names} {nameClass : NameClass} {stem : String} {k : Nat}
    (h : IsLeast (freeNumbers (generated names.namePrefix stem) (names.pool nameClass)) k) :
    names.generate nameClass stem = (generated names.namePrefix stem k,
      names.setPool nameClass ⟨k + 1, generated names.namePrefix stem k ::
        (names.pool nameClass).taken⟩) := by
  have hleast := isLeast_leastFree (generated_injective names.namePrefix stem)
    (names.pool nameClass)
  rw [generate, NamePool.generate, hleast.unique h]

/-- **What generating a name comes to.**  There is a least number from the counter of the class on
whose name is free.  The search turn by turn ends there, and in no other way, after at most one turn
more than there are names taken in the class.  Its name is the one that is generated; the counter
stands behind the number, exactly this name is taken in addition, and the prefix and the other
class are as before. -/
theorem generate_least_free (names : Names) (nameClass : NameClass) (stem : String) :
    let pool := names.pool nameClass
    let name := generated names.namePrefix stem
    let after := (names.generate nameClass stem).2
    ∃ k, IsLeast {j | pool.next ≤ j ∧ name j ∉ pool.taken} k ∧
      (∀ turns r, Finds name pool turns r ↔
        turns = k - pool.next + 1 ∧ r = (name k, after.pool nameClass)) ∧
      k - pool.next + 1 ≤ pool.taken.toFinset.card + 1 ∧
      (names.generate nameClass stem).1 = name k ∧
      (after.pool nameClass).next = k + 1 ∧
      (∀ s, s ∈ (after.pool nameClass).taken ↔ s = name k ∨ s ∈ pool.taken) ∧
      after.namePrefix = names.namePrefix ∧
      ∀ c, c ≠ nameClass → after.pool c = names.pool c := by
  intro pool name after
  have hinjective : Function.Injective name := generated_injective names.namePrefix stem
  obtain ⟨k, hleast⟩ : ∃ k, IsLeast (freeNumbers name pool) k :=
    ⟨_, isLeast_leastFree hinjective pool⟩
  have hgenerate := generate_of_isLeast hleast
  have hafter : after = names.setPool nameClass ⟨k + 1, name k :: pool.taken⟩ :=
    congrArg Prod.snd hgenerate
  have hpool : after.pool nameClass = ⟨k + 1, name k :: pool.taken⟩ := by
    rw [hafter, pool_setPool_self]
  have hfinds := finds_of_isLeast hleast (Nat.add_sub_of_le hleast.1.1)
  refine ⟨k, hleast, fun turns r => ?_, ?_, congrArg Prod.fst hgenerate, ?_, ?_, ?_, ?_⟩
  · rw [hpool]
    constructor
    · intro h
      exact h.unique hfinds
    · rintro ⟨rfl, rfl⟩
      exact hfinds
  · exact Nat.add_le_add_right (sub_le_card hinjective hleast) 1
  · rw [hpool]
  · intro s
    rw [hpool, List.mem_cons]
  · rw [hafter, namePrefix_setPool]
  · intro c hc
    rw [hafter, pool_setPool_of_ne names _ hc]

/-- A name behind two that are taken, one of them twice; the other taken names, and those of
parameters, are not met. -/
theorem generate_least_free_skipping :
    let names : Names := ⟨"q_", ⟨3, ["q_this4", "n", "q_this3", "q_this4"]⟩, ⟨0, ["q_this5"]⟩⟩
    let after := (names.generate .variableName "this").2
    (names.generate .variableName "this").1 = "q_this5" ∧ after.variableNames.next = 6 ∧
      after.parameterNames = names.parameterNames ∧
      Finds (generated "q_" "this") names.variableNames 3 ("q_this5", after.variableNames) := by
  intro names after
  obtain ⟨k, -, hfinds, -, hname, hnext, -, -, hother⟩ :=
    generate_least_free names .variableName "this"
  have hnumber : generated "q_" "this" k = generated "q_" "this" 5 :=
    hname.symm.trans (by decide)
  obtain rfl : k = 5 := generated_injective _ _ hnumber
  exact ⟨hname, hnext, hother .parameterName (by decide), (hfinds _ _).2 ⟨rfl, rfl⟩⟩

end Names

end CypherQuery
