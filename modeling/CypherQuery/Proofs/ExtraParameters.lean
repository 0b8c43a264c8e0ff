/-
**Extra parameters are added without loss.**

At the end of a session the extra parameters are added to those that were recorded.  Whether a name
is refused is decided by the names taken, while the values go into another table, in which an
insertion under a known name would replace what stands there.  After a session the two tables agree,
so nothing is ever replaced: the recorded entries stay in front, in the order in which they were
recorded, and the extra ones come behind them as they are listed.  If a name is in the way, the first
such name is reported.

Main definitions:

* `CypherQuery.Environment.Records`, `CypherQuery.Environment.Admits` — recorded names, and **names
  that are in nobody's way**;
* `CypherQuery.Environment.withVariables` — an environment with other variables;
* `CypherQuery.Environment.MergesWithoutLoss` — **what becomes of extra parameters**.

Main results:

* `CypherQuery.Environment.Consistent.firstRepeated_eq_none_iff`,
  `CypherQuery.Environment.Consistent.firstRepeated_eq_some_iff` — which name is in the way;
* `CypherQuery.Environment.mergeExtras_withVariables` — variables do not matter;
* `CypherQuery.mergeExtras_after` — **the end of a session**.
-/

import CypherQuery.Proofs.BuildEnd
import CypherQuery.Proofs.Session

set_option autoImplicit false

namespace CypherQuery

namespace Environment

/-! ### Names in the way -/

/-- Whether a name is that of a recorded parameter. -/
def Records (env : Environment) (name : String) : Prop :=
  ∃ p, env.boundParameters.lookup p = some name

/-- **Names that are in nobody's way**: no two are equal, and none is that of a recorded
parameter. -/
def Admits (env : Environment) (names : List String) : Prop :=
  names.Nodup ∧ ∀ name ∈ names, ¬ env.Records name

/-- In consistent tables the recorded names are the keys of the values. -/
theorem Consistent.mem_keys_iff {env : Environment} (h : env.Consistent) {name : String} :
    name ∈ Dictionary.keys env.params ↔ env.Records name := by
  rw [h.keys]
  exact h.parameterNaming.mem_names_iff

/-- No name is in the way of another or of a recorded one. -/
theorem Consistent.firstRepeated_eq_none_iff {env : Environment} (h : env.Consistent)
    {names : List String} :
    firstRepeated (Dictionary.keys env.params) names = none ↔ env.Admits names := by
  rw [CypherQuery.firstRepeated_eq_none_iff]
  simp only [h.mem_keys_iff, Admits]

/-- A name is in the way of a recorded one or of an earlier one, and those before it are not. -/
theorem Consistent.firstRepeated_eq_some_iff {env : Environment} (h : env.Consistent)
    {names : List String} {name : String} :
    firstRepeated (Dictionary.keys env.params) names = some name ↔
      ∃ earlier later, names = earlier ++ name :: later ∧ env.Admits earlier ∧
        (env.Records name ∨ name ∈ earlier) := by
  rw [CypherQuery.firstRepeated_eq_some_iff]
  simp only [h.firstRepeated_eq_none_iff, h.mem_keys_iff]

/-! ### Variables -/

/-- The environment with other variables and other names of variables. -/
def withVariables (env : Environment) (boundVariables : List (Variable × String))
    (variableNames : NamePool) : Environment :=
  { env with
    names := { env.names with variableNames := variableNames }
    boundVariables := boundVariables }

/-- **Variables do not matter** at the end of a build. -/
theorem mergeExtras_withVariables {env : Environment} (h : env.TracksKeys)
    (boundVariables : List (Variable × String)) (variableNames : NamePool)
    (extras : List (String × Value)) :
    (env.withVariables boundVariables variableNames).mergeExtras extras =
      env.mergeExtras extras := by
  -- the names and the values of parameters are untouched
  have hother : (env.withVariables boundVariables variableNames).TracksKeys := h
  rw [mergeExtras_eq h, mergeExtras_eq hother]
  rfl

/-! ### What becomes of extra parameters -/

/-- Extra parameters are accepted if no name is in the way. -/
theorem mergeExtras_eq_ok_iff {env : Environment} (h : env.TracksKeys)
    {extras : List (String × Value)} {params : Dictionary Value} :
    env.mergeExtras extras = .ok params ↔
      firstRepeated (Dictionary.keys env.params) (extras.map Prod.fst) = none ∧
        params = env.params ++ extras := by
  rw [mergeExtras_eq h]
  cases firstRepeated (Dictionary.keys env.params) (extras.map Prod.fst) with
  | none => simp [eq_comm]
  | some name => simp

/-- Extra parameters are refused with the name that is in the way. -/
theorem mergeExtras_eq_error_iff {env : Environment} (h : env.TracksKeys)
    {extras : List (String × Value)} {e : BuildError} :
    env.mergeExtras extras = .error e ↔
      ∃ name, firstRepeated (Dictionary.keys env.params) (extras.map Prod.fst) = some name ∧
        e = .nameCollision name .parameterName := by
  rw [mergeExtras_eq h]
  cases firstRepeated (Dictionary.keys env.params) (extras.map Prod.fst) with
  | none => simp
  | some name => simp [eq_comm]

/-- The names of entries are split where the entries are. -/
theorem map_fst_eq_append_cons_iff {extras : List (String × Value)} {front back : List String}
    {name : String} :
    extras.map Prod.fst = front ++ name :: back ↔
      ∃ earlier value later, extras = earlier ++ (name, value) :: later ∧
        earlier.map Prod.fst = front ∧ later.map Prod.fst = back := by
  constructor
  · intro hnames
    obtain ⟨earlier, rest, rfl, hfront, hrest⟩ := List.map_eq_append_iff.1 hnames
    obtain ⟨⟨key, value⟩, later, rfl, rfl, hback⟩ := List.map_eq_cons_iff.1 hrest
    exact ⟨earlier, value, later, rfl, hfront, hback⟩
  · rintro ⟨earlier, value, later, rfl, rfl, rfl⟩
    simp

/-- **What becomes of extra parameters.** -/
structure MergesWithoutLoss (env : Environment) (extras : List (String × Value)) : Prop where
  /-- They are accepted exactly if no name is in the way. -/
  accepted_iff : (∃ params, env.mergeExtras extras = .ok params) ↔
    env.Admits (extras.map Prod.fst)
  /-- They come behind what was recorded. -/
  accepted : ∀ params, env.mergeExtras extras = .ok params → params = env.params ++ extras
  /-- The first name that is in the way of a recorded one or of an earlier one is reported, as that
  of a parameter. -/
  refused_iff : ∀ e, env.mergeExtras extras = .error e ↔
    ∃ earlier name value later, extras = earlier ++ (name, value) :: later ∧
      env.Admits (earlier.map Prod.fst) ∧
      (env.Records name ∨ name ∈ earlier.map Prod.fst) ∧ e = .nameCollision name .parameterName
  /-- Variables do not matter. -/
  unaffected : ∀ boundVariables variableNames,
    (env.withVariables boundVariables variableNames).mergeExtras extras = env.mergeExtras extras

theorem Consistent.mergesWithoutLoss {env : Environment} (h : env.Consistent)
    (extras : List (String × Value)) : env.MergesWithoutLoss extras where
  accepted_iff := by
    simp only [mergeExtras_eq_ok_iff h.tracksKeys, ← h.firstRepeated_eq_none_iff]
    exact ⟨fun ⟨_, hnone, _⟩ => hnone, fun hnone => ⟨_, hnone, rfl⟩⟩
  accepted params hparams := ((mergeExtras_eq_ok_iff h.tracksKeys).1 hparams).2
  refused_iff e := by
    simp only [mergeExtras_eq_error_iff h.tracksKeys, h.firstRepeated_eq_some_iff,
      map_fst_eq_append_cons_iff]
    constructor
    · rintro ⟨name, ⟨front, back, ⟨earlier, value, later, hextras, rfl, rfl⟩, hadmits, hway⟩, he⟩
      exact ⟨earlier, name, value, later, hextras, hadmits, hway, he⟩
    · rintro ⟨earlier, name, value, later, hextras, hadmits, hway, he⟩
      exact ⟨name, ⟨_, _, ⟨earlier, value, later, hextras, rfl, rfl⟩, hadmits, hway⟩, he⟩
  unaffected := fun _ _ => mergeExtras_withVariables h.tracksKeys _ _ _

end Environment

/-! ### The end of a session -/

/-- **The end of a session**, whatever was done in it and whatever failed.  The entries are those of
the recorded parameters in the order in which these got their names; what was recorded at any time
before still stands in front; and extra parameters are added without loss. -/
theorem mergeExtras_after (namePrefix : String) (op : LabelOperator) (steps : List SessionStep)
    (extras : List (String × Value)) :
    let env := (Environment.start namePrefix op).after steps
    Dictionary.keys env.params = env.boundParameters.map Prod.snd ∧
      (∀ earlier, earlier <+: steps →
        ((Environment.start namePrefix op).after earlier).params <+: env.params) ∧
      env.MergesWithoutLoss extras := by
  intro env
  have hcons : env.Consistent := Environment.IsReachable.consistent ⟨namePrefix, op, steps, rfl⟩
  refine ⟨hcons.keys, ?_, hcons.mergesWithoutLoss extras⟩
  rintro earlier ⟨more, rfl⟩
  exact (session_wellNamed namePrefix op earlier more).2.2.params

end CypherQuery
