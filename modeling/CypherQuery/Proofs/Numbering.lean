/-
**Which names are given.**

As long as no identity has an explicit name, nothing but generated names is taken, so the next
number is always free: the variables that are met are numbered one after the other.  What stands in
between does not matter, neither parameters nor variables met before.

A variable with an explicit name gets that name or none.  When several such variables are met, the
first name that is not new is the one that is refused.

Main definitions:

* `CypherQuery.Occurrence.IsAnonymous` — identities without an explicit name;
* `CypherQuery.Environment.NumbersVariables` — **the variables are numbered** one after the other.

Main results:

* `CypherQuery.Environment.NumbersVariables.name` — naming an anonymous identity keeps the
  numbering;
* `CypherQuery.Occurrence.names_nameAll_anonymous` — **the names of anonymous variables**;
* `CypherQuery.Occurrence.error_nameAll_filter_iff` — identities that have names do not matter;
* `CypherQuery.Occurrence.error_nameAll_explicit_iff` — **the name that is refused** among explicit
  ones.
-/

import CypherQuery.Proofs.NamesApart
import Mathlib.Data.List.Dedup

set_option autoImplicit false

namespace CypherQuery

/-- A free name is found at once. -/
theorem NamePool.leastFree_of_not_mem {name : Nat → String} {taken : List String} {bound k : Nat}
    (h : name k ∉ taken) : leastFree name taken bound k = k := by
  cases bound with
  | zero => rfl
  | succ bound => rw [leastFree, if_neg h]

/-! ### Numbered variables -/

/-- An identity without an explicit name; if it is a variable, its names are generated with the
given stem. -/
def Occurrence.IsAnonymous (stem : String) (o : Occurrence) : Prop :=
  o.explicitName = none ∧ (o.nameClass = .variableName → o.stem = stem)

namespace Environment

/-- **The variables are numbered one after the other**, and the next number is not used. -/
structure NumbersVariables (stem : String) (env : Environment) : Prop where
  /-- The names are those of the first numbers, in order. -/
  names : env.boundVariables.map Prod.snd =
    (List.range env.boundVariables.length).map (Names.generated env.names.namePrefix stem)
  /-- The next number comes after those. -/
  next : (env.names.pool .variableName).next = env.boundVariables.length

theorem numbersVariables_start (stem namePrefix : String) (op : LabelOperator) :
    (start namePrefix op).NumbersVariables stem := ⟨rfl, rfl⟩

/-- The name that is generated for a variable has the next number. -/
theorem NumbersVariables.generate {stem : String} {env : Environment}
    (h : env.NumbersVariables stem) (hcons : env.Consistent) :
    (env.names.generate .variableName stem).1 =
        Names.generated env.names.namePrefix stem env.boundVariables.length ∧
      ((env.names.generate .variableName stem).2.pool .variableName).next =
        env.boundVariables.length + 1 := by
  have hfree : Names.generated env.names.namePrefix stem env.boundVariables.length ∉
      (env.names.pool .variableName).taken := by
    rw [hcons.variableTaken, h.names]
    intro hmem
    obtain ⟨k, hk, hsame⟩ := List.mem_map.1 hmem
    obtain rfl := Names.generated_injective _ _ hsame
    exact absurd (List.mem_range.1 hk) (Nat.lt_irrefl _)
  simp only [Names.generate, NamePool.generate, h.next, NamePool.leastFree_of_not_mem hfree,
    Names.pool_setPool_self]
  exact ⟨trivial, trivial⟩

/-- **Naming an anonymous identity** keeps the numbering. -/
theorem NumbersVariables.name {stem : String} {env : Environment} (h : env.NumbersVariables stem)
    (hcons : env.Consistent) {o : Occurrence} (ho : o.IsAnonymous stem) :
    (o.name env).environment.NumbersVariables stem := by
  cases o with
  | variableAt v =>
      rcases nameOf_cases v env with ⟨name, -, hstep⟩ | ⟨e, -, -, hstep⟩ |
        ⟨name, names, -, hchoice, hstep⟩ <;> rw [Occurrence.name, hstep]
      · exact h
      · exact h
      · have hname : v.name = none := ho.1
        have hstem : v.kind.stem = stem := ho.2 rfl
        have hbegin := (takes_of_choose hchoice).namePrefix
        obtain ⟨hgenerated, hnext⟩ := h.generate hcons
        rw [hname, hstem] at hchoice
        simp only [choose, Except.ok.injEq] at hchoice
        rw [hchoice] at hgenerated hnext
        dsimp only at hgenerated hnext
        refine ⟨?_, ?_⟩
        · simp only [bindVariable, List.map_append, List.length_append, List.map_cons, List.map_nil,
            List.length_singleton, List.range_succ, h.names, hgenerated, hbegin]
        · simpa only [bindVariable, List.length_append, List.length_singleton] using hnext
  | parameterAt p =>
      rcases recordParameter_cases p p.value env with ⟨name, -, hstep⟩ | ⟨e, -, -, hstep⟩ |
        ⟨name, names, -, hchoice, hstep⟩ <;> rw [Occurrence.name, hstep]
      · exact h
      · exact h
      · -- the names of variables are in the other pool
        have htakes := takes_of_choose hchoice
        refine ⟨?_, ?_⟩
        · simpa only [bindParameter, htakes.namePrefix] using h.names
        · simpa only [bindParameter, htakes.other .variableName (by decide)] using h.next

end Environment

namespace Occurrence

/-- Anonymous identities can be named. -/
theorem exists_nameAll_anonymous {stem : String} {os : List Occurrence}
    (hos : ∀ o ∈ os, o.IsAnonymous stem) (namePrefix : String) (op : LabelOperator) :
    ∃ names, (nameAll os (.start namePrefix op)).result = .ok names := by
  refine exists_nameAll (Environment.isOfBuild_start namePrefix op)
    (Environment.hasOrigins_start os namePrefix op) ?_ (List.Subset.refl os)
  intro o ho other _ _ name hexplicit _
  rw [(hos o ho).1] at hexplicit
  cases hexplicit

/-- **The names of anonymous variables**: there is one number for each of them. -/
theorem names_nameAll_anonymous {stem : String} {os : List Occurrence}
    (hos : ∀ o ∈ os, o.IsAnonymous stem) {vs : List Variable}
    (hvs : ∀ v, v ∈ vs ↔ .variableAt v ∈ os) (namePrefix : String) (op : LabelOperator) :
    (nameAll os (.start namePrefix op)).environment.boundVariables.map Prod.snd =
      (List.range vs.dedup.length).map (Names.generated namePrefix stem) := by
  let env := (nameAll os (.start namePrefix op)).environment
  have hstart := Environment.isOfBuild_start namePrefix op
  obtain ⟨hbuild, hnumbers⟩ : env.IsOfBuild ∧ env.NumbersVariables stem :=
    keeps_nameAll (P := fun later => later.IsOfBuild ∧ later.NumbersVariables stem)
      (fun o ho mid h => ⟨h.1.name o, h.2.name h.1.consistent (hos o ho)⟩)
      ⟨hstart, Environment.numbersVariables_start stem namePrefix op⟩
  obtain ⟨horigins, hbegin⟩ := hasOrigins_nameAll hstart
    (Environment.hasOrigins_start os namePrefix op) (List.Subset.refl os)
  obtain ⟨names, hnames⟩ := exists_nameAll_anonymous hos namePrefix op
  have hnaming := hbuild.consistent.variableNaming
  -- the variables in the table are those of the list
  have hmem : ∀ v, v ∈ env.boundVariables.map Prod.fst ↔ v ∈ vs.dedup := by
    intro v
    rw [List.mem_dedup, hvs, List.mem_map]
    constructor
    · rintro ⟨⟨v, name⟩, hentry, rfl⟩
      exact (horigins (.variableAt v) name (hnaming.lookup_eq_some_iff.2 hentry)).1
    · intro hv
      obtain ⟨name, hname⟩ := exists_lookup_of_nameAll hnames _ hv
      exact ⟨(v, name), hnaming.lookup_eq_some_iff.1 hname, rfl⟩
  have hlength : env.boundVariables.length = vs.dedup.length := by
    rw [← List.length_map (f := Prod.fst)]
    exact ((List.perm_ext_iff_of_nodup hnaming.identities vs.nodup_dedup).2 hmem).length_eq
  have hlist := hnumbers.names
  rw [hlength, hbegin] at hlist
  exact hlist

/-! ### Explicit names -/

/-- After identities that can be named, the others decide. -/
theorem error_nameAll_append_iff {os rest : List Occurrence} {env : Environment}
    {names : List String} (h : (nameAll os env).result = .ok names) {e : BuildError} :
    (nameAll (os ++ rest) env).result = .error e ↔
      (nameAll rest (nameAll os env).environment).result = .error e := by
  simp only [nameAll] at h ⊢
  rw [BuildM.each_append, BuildM.bind_of_ok _ h, BuildM.bind_pure_apply]
  exact map_eq_error_iff

/-- Identities that have names do not matter for what cannot be named. -/
theorem error_nameAll_filter_iff {os : List Occurrence} {keep : Occurrence → Bool}
    {e : BuildError} :
    ∀ {env : Environment}, env.IsOfBuild →
      (∀ o ∈ os, keep o = false → (o.lookup env).isSome = true) →
      ((nameAll os env).result = .error e ↔ (nameAll (os.filter keep) env).result = .error e) := by
  induction os with
  | nil => exact fun _ _ => Iff.rfl
  | cons o rest ih =>
      intro env h hnamed
      rw [List.forall_mem_cons] at hnamed
      have hlater : ∀ other ∈ rest, keep other = false →
          (other.lookup (o.name env).environment).isSome = true := by
        intro other hother hkeep
        obtain ⟨name, hname⟩ := Option.isSome_iff_exists.1 (hnamed.2 other hother hkeep)
        rw [lookup_of_extends (o.extends_name env) hname]
        rfl
      cases hkeep : keep o with
      | true =>
          rw [List.filter_cons_of_pos hkeep]
          cases hresult : (o.name env).result with
          | error e' => rw [(nameAll_cons_of_error hresult).1, (nameAll_cons_of_error hresult).1]
          | ok name =>
              rw [(nameAll_cons_of_ok hresult).1, (nameAll_cons_of_ok hresult).1,
                map_eq_error_iff, map_eq_error_iff]
              exact ih (h.name o) hlater
      | false =>
          obtain ⟨name, hname⟩ := Option.isSome_iff_exists.1 (hnamed.1 hkeep)
          have hstep := name_of_lookup h hname
          rw [List.filter_cons_of_neg (by simp [hkeep]),
            (nameAll_cons_of_ok (by rw [hstep])).1, map_eq_error_iff, hstep]
          rw [hstep] at hlater
          exact ih h hlater

/-- A new variable with an explicit name gets it if it is new, and otherwise none. -/
theorem name_explicit_cases {env : Environment} (h : env.IsOfBuild) {v : Variable} {name : String}
    (hname : v.name = some name) (hunbound : env.boundVariables.lookup v = none) :
    (name ∈ env.boundVariables.map Prod.snd ∧
      ((variableAt v).name env).result = .error (.nameCollision name .variableName)) ∨
    (name ∉ env.boundVariables.map Prod.snd ∧ ((variableAt v).name env).result = .ok name ∧
      ((variableAt v).name env).environment.boundVariables = env.boundVariables ++ [(v, name)]) := by
  rw [← h.consistent.variableTaken]
  rcases Environment.nameOf_cases v env with ⟨found, hfound, -⟩ | ⟨e, -, hchoice, hstep⟩ |
    ⟨found, names, -, hchoice, hstep⟩
  · rw [hunbound] at hfound
    cases hfound
  · rw [hname] at hchoice
    obtain ⟨_, ⟨⟩, htaken, rfl⟩ := Environment.taken_of_choose hchoice
    exact .inl ⟨htaken, by rw [Occurrence.name, hstep]⟩
  · have hfree := (Environment.takes_of_choose hchoice).free
    obtain rfl : name = found := by
      rcases Environment.mayBeNamed_of_choose (o := .variableAt v) hchoice with
        hfound | ⟨hnone, -⟩
      · exact Option.some.inj (hname.symm.trans hfound)
      · cases hname.symm.trans hnone
    exact .inr ⟨hfree, by rw [Occurrence.name, hstep], by rw [Occurrence.name, hstep]; rfl⟩

/-- **The name that is refused** among explicit ones is the first that is not new. -/
theorem error_nameAll_explicit_iff {vs : List Variable} {e : BuildError} :
    ∀ {env : Environment}, env.IsOfBuild → vs.Nodup →
      (∀ v ∈ vs, v.name.isSome = true ∧ env.boundVariables.lookup v = none) →
      ((nameAll (vs.map .variableAt) env).result = .error e ↔
        ∃ name, firstRepeated (env.boundVariables.map Prod.snd) (vs.filterMap Variable.name) =
          some name ∧ e = .nameCollision name .variableName) := by
  induction vs with
  | nil =>
      intro env _ _ _
      simp [firstRepeated, nameAll, BuildM.pure_apply]
  | cons v rest ih =>
      intro env h hnodup hnew
      rw [List.forall_mem_cons] at hnew
      obtain ⟨⟨hexplicit, hunbound⟩, hrest⟩ := hnew
      rw [List.nodup_cons] at hnodup
      obtain ⟨name, hname⟩ := Option.isSome_iff_exists.1 hexplicit
      rw [List.map_cons, List.filterMap_cons_some hname, firstRepeated]
      rcases name_explicit_cases h hname hunbound with
        ⟨hknown, hresult⟩ | ⟨hfree, hresult, htable⟩
      · rw [(nameAll_cons_of_error hresult).1, if_pos hknown]
        simp [eq_comm]
      · have hlater : ∀ w ∈ rest, w.name.isSome = true ∧
            ((variableAt v).name env).environment.boundVariables.lookup w = none := by
          intro w hw
          have hne : w ≠ v := fun heq => hnodup.1 (heq ▸ hw)
          rw [htable, lookup_append_singleton, (hrest w hw).2, if_neg hne]
          exact ⟨(hrest w hw).1, rfl⟩
        rw [(nameAll_cons_of_ok hresult).1, map_eq_error_iff, if_neg hfree,
          ih (h.name (.variableAt v)) hnodup.2 hlater, htable, List.map_append]
        rfl

end Occurrence

end CypherQuery
