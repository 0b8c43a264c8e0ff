/-
**The tables of an environment agree with each other.**

An environment keeps the same facts in several places: the names of variables and of parameters in
two tables, the names taken in two pools, and the values of parameters under their names.  This
module states how the places agree, and that every naming step keeps them in agreement.

Main definitions:

* `CypherQuery.IsNaming` — a table in which neither an identity nor a name occurs twice;
* `CypherQuery.Environment.Consistent` — **the agreement of all tables**;
* `CypherQuery.Environment.Grows` — consistent tables stay consistent, and recorded values stay
  where they are.

Main results:

* `CypherQuery.Environment.consistent_start` — the tables agree at the beginning of a build;
* `CypherQuery.Environment.grows_nameOf`, `CypherQuery.Environment.grows_recordParameter` —
  **every naming step keeps the agreement**.
-/

import CypherQuery.Proofs.NamingSteps

set_option autoImplicit false

namespace CypherQuery

/-! ### Tables of names -/

/-- A table in which neither an identity nor a name occurs twice. -/
structure IsNaming {α : Type} (table : List (α × String)) : Prop where
  /-- No identity has two entries. -/
  identities : (table.map Prod.fst).Nodup
  /-- No name has two entries. -/
  names : (table.map Prod.snd).Nodup

namespace IsNaming

variable {α : Type} {table : List (α × String)}

theorem nil : IsNaming ([] : List (α × String)) := ⟨by simp, by simp⟩

/-- In a naming, looking up an identity finds its entry. -/
theorem lookup_eq_some_iff [DecidableEq α] (h : IsNaming table) {a : α} {name : String} :
    table.lookup a = some name ↔ (a, name) ∈ table := by
  have hids := h.identities
  clear h
  induction table with
  | nil => simp
  | cons entry rest ih =>
      obtain ⟨b, other⟩ := entry
      simp only [List.map_cons, List.nodup_cons, List.mem_map, not_exists, not_and] at hids
      by_cases hab : a = b
      · subst hab
        have hrest : (a, name) ∉ rest := fun hmem => hids.1 _ hmem rfl
        simp [hrest, eq_comm]
      · have hne : (a == b) = false := by simpa using hab
        simp [List.lookup_cons, hne, hab, ih hids.2]

/-- In a naming, a name belongs to a single identity. -/
theorem eq_of_lookup [DecidableEq α] (h : IsNaming table) {a b : α} {name : String}
    (ha : table.lookup a = some name) (hb : table.lookup b = some name) : a = b := by
  have hmem := h.lookup_eq_some_iff.1 ha
  have hmem' := h.lookup_eq_some_iff.1 hb
  exact congrArg Prod.fst (List.inj_on_of_nodup_map h.names hmem hmem' rfl)

/-- The names of a naming are those that some identity has. -/
theorem mem_names_iff [DecidableEq α] (h : IsNaming table) {name : String} :
    name ∈ table.map Prod.snd ↔ ∃ a, table.lookup a = some name := by
  constructor
  · intro hmem
    obtain ⟨⟨a, found⟩, hentry, rfl⟩ := List.mem_map.1 hmem
    exact ⟨a, h.lookup_eq_some_iff.2 hentry⟩
  · rintro ⟨a, ha⟩
    exact List.mem_map.2 ⟨(a, name), h.lookup_eq_some_iff.1 ha, rfl⟩

/-- A new identity gets a new name. -/
theorem append [DecidableEq α] (h : IsNaming table) {a : α} {name : String}
    (ha : table.lookup a = none) (hname : name ∉ table.map Prod.snd) :
    IsNaming (table ++ [(a, name)]) where
  identities := by
    rw [List.map_append, List.nodup_append]
    refine ⟨h.identities, by simp, ?_⟩
    rintro b hb c hc rfl
    obtain ⟨⟨b, found⟩, hentry, rfl⟩ := List.mem_map.1 hb
    obtain rfl : b = a := by simpa using hc
    rw [h.lookup_eq_some_iff.2 hentry] at ha
    cases ha
  names := by
    rw [List.map_append, List.nodup_append]
    refine ⟨h.names, by simp, ?_⟩
    rintro other hother found hfound rfl
    obtain rfl : other = name := by simpa using hfound
    exact hname hother

end IsNaming

/-! ### All tables of an environment -/

namespace Environment

/-- **The agreement of all tables of an environment.** -/
structure Consistent (env : Environment) : Prop where
  /-- Variables and their names correspond. -/
  variableNaming : IsNaming env.boundVariables
  /-- Parameters and their names correspond. -/
  parameterNaming : IsNaming env.boundParameters
  /-- The variable names taken are those of variables. -/
  variableTaken : ∀ name, name ∈ (env.names.pool .variableName).taken ↔
    name ∈ env.boundVariables.map Prod.snd
  /-- The parameter names taken are those of parameters. -/
  parameterTaken : ∀ name, name ∈ (env.names.pool .parameterName).taken ↔
    name ∈ env.boundParameters.map Prod.snd
  /-- There is a value for every parameter, in the order in which the parameters were met. -/
  keys : Dictionary.keys env.params = env.boundParameters.map Prod.snd

/-- **The tables agree at the beginning of a build.** -/
theorem consistent_start (namePrefix : String) (op : LabelOperator) :
    (start namePrefix op).Consistent :=
  ⟨.nil, .nil, fun _ => Iff.rfl, fun _ => Iff.rfl, rfl⟩

/-- The tables agree when a new variable has got a free name. -/
theorem Consistent.bindVariable {env : Environment} (h : env.Consistent) {v : Variable}
    {name : String} {names : Names} (hv : env.boundVariables.lookup v = none)
    (htakes : env.names.Takes .variableName name names) :
    (env.bindVariable v name names).Consistent where
  variableNaming := h.variableNaming.append hv fun hmem =>
    htakes.free ((h.variableTaken name).2 hmem)
  parameterNaming := h.parameterNaming
  variableTaken other := by
    -- the pool has the new name in front, the table has it at the end
    simp [Environment.bindVariable, htakes.taken, h.variableTaken, or_comm]
  parameterTaken other := by
    rw [Environment.bindVariable, htakes.other .parameterName (by decide)]
    exact h.parameterTaken other
  keys := h.keys

/-- A new parameter gets a value under a key that was not there. -/
theorem Consistent.params_bindParameter {env : Environment} (h : env.Consistent) {p : Parameter}
    {name : String} {names : Names} (value : Value)
    (htakes : env.names.Takes .parameterName name names) :
    (env.bindParameter p name value names).params = env.params ++ [(name, value)] := by
  refine Dictionary.insert_of_not_mem ?_ value
  rw [h.keys]
  exact fun hmem => htakes.free ((h.parameterTaken name).2 hmem)

/-- The tables agree when a new parameter has got a free name and a value. -/
theorem Consistent.bindParameter {env : Environment} (h : env.Consistent) {p : Parameter}
    {name : String} {names : Names} (value : Value) (hp : env.boundParameters.lookup p = none)
    (htakes : env.names.Takes .parameterName name names) :
    (env.bindParameter p name value names).Consistent where
  variableNaming := h.variableNaming
  parameterNaming := h.parameterNaming.append hp fun hmem =>
    htakes.free ((h.parameterTaken name).2 hmem)
  variableTaken other := by
    rw [Environment.bindParameter, htakes.other .variableName (by decide)]
    exact h.variableTaken other
  parameterTaken other := by
    simp [Environment.bindParameter, htakes.taken, h.parameterTaken, or_comm]
  keys := by
    rw [h.params_bindParameter value htakes]
    simpa [Dictionary.keys, Environment.bindParameter] using h.keys

/-! ### Naming steps keep the agreement -/

/-- **Consistent tables stay consistent**, and the values recorded stay where they are. -/
def Grows (env later : Environment) : Prop :=
  env.Consistent → later.Consistent ∧ env.params <+: later.params

theorem Grows.refl (env : Environment) : env.Grows env := fun h => ⟨h, List.prefix_rfl⟩

theorem Grows.trans {env mid later : Environment} (h₁ : env.Grows mid) (h₂ : mid.Grows later) :
    env.Grows later := by
  intro h
  -- the tables in between are consistent, which is what the second step needs
  obtain ⟨hmid, hprefix⟩ := h₁ h
  obtain ⟨hlater, hprefix'⟩ := h₂ hmid
  exact ⟨hlater, hprefix.trans hprefix'⟩

/-- **Asking for the name of a variable** keeps the agreement. -/
theorem grows_nameOf (v : Variable) (env : Environment) :
    env.Grows (nameOf v env).environment := by
  rcases nameOf_cases v env with ⟨name, -, h⟩ | ⟨e, -, -, h⟩ | ⟨name, names, hv, hchoice, h⟩ <;>
    rw [h]
  · exact Grows.refl env
  · exact Grows.refl env
  · intro hcons
    exact ⟨hcons.bindVariable hv (takes_of_choose hchoice), List.prefix_rfl⟩

/-- **Recording a value for a parameter** keeps the agreement. -/
theorem grows_recordParameter (p : Parameter) (value : Value) (env : Environment) :
    env.Grows (recordParameter p value env).environment := by
  rcases recordParameter_cases p value env with
    ⟨name, -, h⟩ | ⟨e, -, -, h⟩ | ⟨name, names, hp, hchoice, h⟩ <;> rw [h]
  · exact Grows.refl env
  · exact Grows.refl env
  · intro hcons
    have htakes := takes_of_choose hchoice
    exact ⟨hcons.bindParameter value hp htakes,
      ⟨[(name, value)], (hcons.params_bindParameter value htakes).symm⟩⟩

end Environment

end CypherQuery
