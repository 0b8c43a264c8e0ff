/-
**Sessions: any steps in any order.**

A session asks for names, records values and writes constructs, in any order and whatever fails on
the way.  Whatever is done, it is done by naming steps; so the tables of the environment stay in
agreement, and what was bound and recorded stays.

Main definitions:

* `CypherQuery.Environment.after` — the environment that the steps of a session leave behind;
* `CypherQuery.Environment.IsReachable` — **the environments that sessions lead to**;
* `CypherQuery.Environment.WellNamed` — the agreement of the tables, said of look-ups;
* `CypherQuery.Environment.Keeps` — names and recorded values stay.

Main results:

* `CypherQuery.Environment.IsReachable.consistent` — reachable environments are consistent;
* `CypherQuery.session_wellNamed` — **after every session the tables agree, and in every
  continuation names and values stay**.
-/

import CypherQuery.Build
import CypherQuery.Proofs.Consistency
import CypherQuery.Proofs.Template.Construct

set_option autoImplicit false

namespace CypherQuery

namespace Environment

/-- **The environment that the steps of a session leave behind.** -/
def after (env : Environment) (steps : List SessionStep) : Environment :=
  steps.foldl (fun env step => (step.run env).environment) env

/-- **The environments that sessions lead to.** -/
def IsReachable (env : Environment) : Prop :=
  ∃ namePrefix op steps, (start namePrefix op).after steps = env

/-! ### What a step of a session keeps -/

theorem grows_name (o : Occurrence) (env : Environment) : env.Grows (o.name env).environment := by
  cases o with
  | variableAt v => exact grows_nameOf v env
  | parameterAt p => exact grows_recordParameter p p.value env

theorem grows_step (step : SessionStep) (env : Environment) :
    env.Grows (step.run env).environment := by
  cases step with
  | name v => exact grows_nameOf v env
  | record p value => exact grows_recordParameter p value env
  | write c =>
      -- writing a construct is a run of its template, and that is naming steps
      rw [SessionStep.run, Construct.environment_render]
      exact Template.relates_run Grows.refl (fun _ _ _ => Grows.trans) grows_name c.template env
  | askNamePrefix => exact Grows.refl env
  | askLabelOperator => exact Grows.refl env

theorem extends_step (step : SessionStep) (env : Environment) :
    env.Extends (step.run env).environment := by
  cases step with
  | name v => exact extends_nameOf v env
  | record p value => exact extends_recordParameter p value env
  | write c =>
      rw [SessionStep.run, Construct.environment_render]
      exact Template.extends_run c.template env
  | askNamePrefix => exact Extends.refl env
  | askLabelOperator => exact Extends.refl env

/-! ### What a session keeps -/

theorem grows_after (steps : List SessionStep) :
    ∀ env : Environment, env.Grows (env.after steps) := by
  induction steps with
  | nil => exact Grows.refl
  | cons step rest ih => exact fun env => (grows_step step env).trans (ih _)

theorem extends_after (steps : List SessionStep) :
    ∀ env : Environment, env.Extends (env.after steps) := by
  induction steps with
  | nil => exact Extends.refl
  | cons step rest ih => exact fun env => (extends_step step env).trans (ih _)

/-- **Reachable environments are consistent.** -/
theorem IsReachable.consistent {env : Environment} (h : env.IsReachable) : env.Consistent := by
  obtain ⟨namePrefix, op, steps, rfl⟩ := h
  exact (grows_after steps _ (consistent_start namePrefix op)).1

/-! ### The agreement of the tables -/

/-- **The tables of an environment agree.** -/
structure WellNamed (env : Environment) : Prop where
  /-- Different variables have different names. -/
  variable_unique : ∀ v w name, env.boundVariables.lookup v = some name →
    env.boundVariables.lookup w = some name → v = w
  /-- Different parameters have different names. -/
  parameter_unique : ∀ p q name, env.boundParameters.lookup p = some name →
    env.boundParameters.lookup q = some name → p = q
  /-- The variable names taken are those that some variable has. -/
  variable_taken : ∀ name, name ∈ (env.names.pool .variableName).taken ↔
    ∃ v, env.boundVariables.lookup v = some name
  /-- The parameter names taken are those that some parameter has. -/
  parameter_taken : ∀ name, name ∈ (env.names.pool .parameterName).taken ↔
    ∃ p, env.boundParameters.lookup p = some name
  /-- There are values under the names that some parameter has. -/
  mem_keys : ∀ name, name ∈ Dictionary.keys env.params ↔
    ∃ p, env.boundParameters.lookup p = some name
  /-- There is one value under each. -/
  nodup_keys : (Dictionary.keys env.params).Nodup

theorem Consistent.wellNamed {env : Environment} (h : env.Consistent) : env.WellNamed where
  variable_unique _ _ _ hv hw := h.variableNaming.eq_of_lookup hv hw
  parameter_unique _ _ _ hp hq := h.parameterNaming.eq_of_lookup hp hq
  variable_taken name := (h.variableTaken name).trans h.variableNaming.mem_names_iff
  parameter_taken name := (h.parameterTaken name).trans h.parameterNaming.mem_names_iff
  mem_keys name := by rw [h.keys]; exact h.parameterNaming.mem_names_iff
  nodup_keys := by rw [h.keys]; exact h.parameterNaming.names

/-- **Names and recorded values stay**: identities keep their names, and the entries of the
parameters keep their positions and values. -/
structure Keeps (env later : Environment) : Prop where
  /-- Variables keep their names. -/
  variableNames : ∀ v name, env.boundVariables.lookup v = some name →
    later.boundVariables.lookup v = some name
  /-- Parameters keep their names. -/
  parameterNames : ∀ p name, env.boundParameters.lookup p = some name →
    later.boundParameters.lookup p = some name
  /-- Entries keep their positions and values. -/
  params : env.params <+: later.params

/-- The first value recorded for a parameter is the one that gets an entry, behind all others. -/
def RecordsFirstValue (env : Environment) : Prop :=
  ∀ p value name, env.boundParameters.lookup p = none →
    (recordParameter p value env).result = .ok name →
    (recordParameter p value env).environment.params = env.params ++ [(name, value)]

theorem Consistent.recordsFirstValue {env : Environment} (h : env.Consistent) :
    env.RecordsFirstValue := by
  intro p value name hp hname
  rcases recordParameter_cases p value env with
    ⟨known, hknown, -⟩ | ⟨e, -, -, hstep⟩ | ⟨new, names, -, hchoice, hstep⟩
  · -- a parameter that has a name already is not recorded for the first time
    rw [hp] at hknown
    cases hknown
  · rw [hstep] at hname
    cases hname
  · rw [hstep] at hname ⊢
    cases hname
    exact h.params_bindParameter value (takes_of_choose hchoice)

end Environment

/-- **After every session the tables agree, and in every continuation names and values stay.**  The
values that stay are those recorded first. -/
theorem session_wellNamed (namePrefix : String) (op : LabelOperator)
    (steps more : List SessionStep) :
    ((Environment.start namePrefix op).after steps).WellNamed ∧
      ((Environment.start namePrefix op).after steps).RecordsFirstValue ∧
      ((Environment.start namePrefix op).after steps).Keeps
        ((Environment.start namePrefix op).after (steps ++ more)) := by
  have hcons := Environment.IsReachable.consistent ⟨namePrefix, op, steps, rfl⟩
  have hmore : (Environment.start namePrefix op).after (steps ++ more) =
      ((Environment.start namePrefix op).after steps).after more := by
    simp [Environment.after]
  have hnames := Environment.extends_after more ((Environment.start namePrefix op).after steps)
  obtain ⟨-, hparams⟩ := Environment.grows_after more _ hcons
  rw [hmore]
  exact ⟨hcons.wellNamed, hcons.recordsFirstValue,
    ⟨hnames.variableNames, hnames.parameterNames, hparams⟩⟩

end CypherQuery
