/-
**Names handed out are new.**

An explicit name is refused when it is taken.  A generated name is searched among as many
candidates as there are names taken, and one more; different numbers have different names, so one
of the candidates is free.  Either way a name that is handed out was not taken before, is taken
afterwards, and nothing else of the names changes.

Main definitions:

* `CypherQuery.Names.Takes` — one name of a class goes from free to taken.

Main results:

* `CypherQuery.Names.generated_injective` — different numbers have different names;
* `CypherQuery.NamePool.leastFree_free` — **the search for a free name finds one**;
* `CypherQuery.Names.takes_claim`, `CypherQuery.Names.takes_generate` — handing out a name.
-/

import CypherQuery.Environment
import Mathlib.Data.List.Perm.Subperm
import Mathlib.Data.List.Nodup

set_option autoImplicit false

namespace CypherQuery

/-! ### Generated names -/

/-- **Different numbers have different names.** -/
theorem Names.generated_injective (namePrefix stem : String) :
    Function.Injective (Names.generated namePrefix stem) := by
  intro j k h
  have hdigits : toString j = toString k := String.append_right_inj _ |>.1 h
  have hchars : Nat.toDigits 10 j = Nat.toDigits 10 k := by
    simpa using congrArg String.toList hdigits
  rw [← Nat.ofDigitChars_ten_toDigits (n := j), hchars, Nat.ofDigitChars_ten_toDigits]

namespace NamePool

/-! ### The search for a free name -/

/-- The search passes over taken names only. -/
theorem mem_of_lt_leastFree {name : Nat → String} {taken : List String} :
    ∀ {bound k j : Nat}, k ≤ j → j < leastFree name taken bound k → name j ∈ taken := by
  intro bound
  induction bound with
  | zero =>
      intro k j hk hj
      simp only [leastFree] at hj
      omega
  | succ bound ih =>
      intro k j hk hj
      by_cases hname : name k ∈ taken
      · rcases Nat.eq_or_lt_of_le hk with rfl | hlt
        · exact hname
        · simp only [leastFree, if_pos hname] at hj
          exact ih hlt hj
      · simp only [leastFree, if_neg hname] at hj
        omega

/-- The search does not go back, and stops within its bound. -/
theorem leastFree_bounds (name : Nat → String) (taken : List String) :
    ∀ bound k : Nat, k ≤ leastFree name taken bound k ∧
      leastFree name taken bound k ≤ k + bound := by
  intro bound
  induction bound with
  | zero => intro k; simp [leastFree]
  | succ bound ih =>
      intro k
      simp only [leastFree]
      split
      · have := ih (k + 1)
        omega
      · omega

/-- A search that stops before its bound has found a free name. -/
theorem leastFree_free_of_lt {name : Nat → String} {taken : List String} :
    ∀ {bound k : Nat}, leastFree name taken bound k < k + bound →
      name (leastFree name taken bound k) ∉ taken := by
  intro bound
  induction bound with
  | zero => intro k h; simp [leastFree] at h
  | succ bound ih =>
      intro k h
      by_cases hname : name k ∈ taken
      · simp only [leastFree, if_pos hname] at h ⊢
        exact ih (by omega)
      · simpa only [leastFree, if_neg hname] using hname

/-- **The search finds a free name**, as different numbers have different names: were it to stop
at a taken name, there would be more taken names than names taken. -/
theorem leastFree_free {name : Nat → String} (hname : Function.Injective name)
    (taken : List String) (k : Nat) :
    name (leastFree name taken taken.length k) ∉ taken := by
  rcases Nat.lt_or_ge (leastFree name taken taken.length k) (k + taken.length) with hlt | hge
  · exact leastFree_free_of_lt hlt
  · have hstop : leastFree name taken taken.length k = k + taken.length :=
      Nat.le_antisymm (leastFree_bounds name taken taken.length k).2 hge
    intro hmem
    -- all names up to the bound, and the one at it, would be taken
    have hsub : (List.range (taken.length + 1)).map (fun i => name (k + i)) ⊆ taken := by
      intro s hs
      obtain ⟨i, hi, rfl⟩ := List.mem_map.1 hs
      have hi' : i < taken.length + 1 := List.mem_range.1 hi
      rcases Nat.lt_or_ge i taken.length with hlt | hge'
      · exact mem_of_lt_leastFree (Nat.le_add_right k i) (by rw [hstop]; omega)
      · have : i = taken.length := by omega
        rwa [this, ← hstop]
    have hnodup : ((List.range (taken.length + 1)).map (fun i => name (k + i))).Nodup :=
      List.nodup_range.map fun i j hij => Nat.add_left_cancel (hname hij)
    -- but they are different names, and one more than there are taken ones
    have hle := (hnodup.subperm hsub).length_le
    simp only [List.length_map, List.length_range] at hle
    omega

end NamePool

/-! ### Handing out a name -/

/-- **One name of a class goes from free to taken**, and nothing else of the names changes but
the counter of the class. -/
structure Names.Takes (names : Names) (nameClass : NameClass) (name : String) (after : Names) :
    Prop where
  /-- The name was free. -/
  free : name ∉ (names.pool nameClass).taken
  /-- The name is the latest one taken. -/
  taken : (after.pool nameClass).taken = name :: (names.pool nameClass).taken
  /-- The other class stays as it is. -/
  other : ∀ c, c ≠ nameClass → after.pool c = names.pool c
  /-- The prefix of generated names stays as it is. -/
  namePrefix : after.namePrefix = names.namePrefix

namespace Names

@[simp] theorem pool_setPool_self (names : Names) (nameClass : NameClass) (pool : NamePool) :
    (names.setPool nameClass pool).pool nameClass = pool := by
  cases nameClass <;> rfl

theorem pool_setPool_of_ne (names : Names) {nameClass c : NameClass} (pool : NamePool)
    (h : c ≠ nameClass) : (names.setPool nameClass pool).pool c = names.pool c := by
  cases nameClass <;> cases c <;> first | rfl | exact absurd rfl h

@[simp] theorem namePrefix_setPool (names : Names) (nameClass : NameClass) (pool : NamePool) :
    (names.setPool nameClass pool).namePrefix = names.namePrefix := by
  cases nameClass <;> rfl

/-- An explicit name is refused exactly when it is taken. -/
theorem claim_of_mem {names : Names} {nameClass : NameClass} {name : String}
    (h : name ∈ (names.pool nameClass).taken) :
    names.claim nameClass name = .error (.nameCollision name nameClass) := by
  simp [claim, NamePool.claim?, h]

/-- An explicit name that is handed out. -/
theorem takes_claim {names after : Names} {nameClass : NameClass} {name : String}
    (h : names.claim nameClass name = .ok after) : names.Takes nameClass name after := by
  by_cases hmem : name ∈ (names.pool nameClass).taken
  · rw [claim_of_mem hmem] at h
    cases h
  · simp only [claim, NamePool.claim?, if_neg hmem, Except.ok.injEq] at h
    subst h
    exact ⟨hmem, by simp, fun c hc => pool_setPool_of_ne names _ hc, by simp⟩

/-- A generated name. -/
theorem takes_generate (names : Names) (nameClass : NameClass) (stem : String) :
    names.Takes nameClass (names.generate nameClass stem).1 (names.generate nameClass stem).2 where
  free := NamePool.leastFree_free (generated_injective names.namePrefix stem) _ _
  taken := by simp [generate, NamePool.generate]
  other c hc := by simp [generate, pool_setPool_of_ne names _ hc]
  namePrefix := by simp [generate]

end Names

/-- A name is chosen for a new identity: it goes from free to taken. -/
theorem Environment.takes_of_choose {env : Environment} {nameClass : NameClass}
    {explicit : Option String} {stem name : String} {after : Names}
    (h : env.choose nameClass explicit stem = .ok (name, after)) :
    env.names.Takes nameClass name after := by
  cases explicit with
  | none =>
      simp only [choose, Except.ok.injEq] at h
      have htakes := Names.takes_generate env.names nameClass stem
      rwa [h] at htakes
  | some given =>
      simp only [choose] at h
      cases hclaim : env.names.claim nameClass given with
      | error e => rw [hclaim] at h; cases h
      | ok names =>
          rw [hclaim] at h
          cases h
          exact Names.takes_claim hclaim

end CypherQuery
