/-
**What a naming step can do.**

A naming step asks for the name of a variable, or records a value for a parameter.  There are three
outcomes: the identity had a name already and the environment stays as it is; no name can be
handed out and the environment stays as it is; or a free name is handed out and noted in the
tables.  Every later proof about environments reads the steps off these outcomes.

Main definitions:

* `CypherQuery.Environment.Extends` — what was bound in one environment is bound in another.

Main results:

* `CypherQuery.Environment.nameOf_cases`, `CypherQuery.Environment.recordParameter_cases` — **the
  three outcomes of a naming step**;
* `CypherQuery.Environment.nameOf_of_error`, `CypherQuery.Environment.recordParameter_of_error` — a
  naming step that fails leaves the environment as it is;
* `CypherQuery.Environment.extends_nameOf`, `CypherQuery.Environment.extends_recordParameter` —
  **a name once given never changes**;
* `CypherQuery.Environment.lookup_nameOf`, `CypherQuery.Environment.lookup_recordParameter` — the
  name that a step returns is bound afterwards.
-/

import CypherQuery.Proofs.FreshNames

set_option autoImplicit false

namespace CypherQuery

/-! ### Look-up in a table that grows at its end -/

/-- An entry at the end of a table is found under keys that the table does not have. -/
theorem lookup_append_singleton {α β : Type} [DecidableEq α] (table : List (α × β))
    (key key' : α) (value : β) :
    (table ++ [(key, value)]).lookup key' =
      (table.lookup key').or (if key' = key then some value else none) := by
  rw [List.lookup_append]
  by_cases h : key' = key
  · simp [h]
  · have hne : (key' == key) = false := by simpa using h
    simp [h, hne, List.lookup_cons]

namespace Environment

/-! ### The outcomes of a naming step -/

/-- The environment in which a new variable has got a name. -/
def bindVariable (env : Environment) (v : Variable) (name : String) (names : Names) :
    Environment :=
  { env with names := names, boundVariables := env.boundVariables ++ [(v, name)] }

/-- The environment in which a new parameter has got a name and a value. -/
def bindParameter (env : Environment) (p : Parameter) (name : String) (value : Value)
    (names : Names) : Environment :=
  { env with
    names := names
    boundParameters := env.boundParameters ++ [(p, name)]
    params := Dictionary.insert env.params name value }

/-- **The outcomes of asking for the name of a variable.** -/
theorem nameOf_cases (v : Variable) (env : Environment) :
    (∃ name, env.boundVariables.lookup v = some name ∧ nameOf v env = ⟨.ok name, env, []⟩) ∨
    (∃ e, env.boundVariables.lookup v = none ∧
      env.choose .variableName v.name v.kind.stem = .error e ∧
      nameOf v env = ⟨.error e, env, []⟩) ∨
    (∃ name names, env.boundVariables.lookup v = none ∧
      env.choose .variableName v.name v.kind.stem = .ok (name, names) ∧
      nameOf v env =
        ⟨.ok name, env.bindVariable v name names, [.variableBound v.kind name]⟩) := by
  cases hbound : env.boundVariables.lookup v with
  | some name => exact .inl ⟨name, rfl, by simp only [nameOf, hbound]⟩
  | none =>
      cases hchoice : env.choose .variableName v.name v.kind.stem with
      | error e => exact .inr (.inl ⟨e, rfl, rfl, by simp only [nameOf, hbound, hchoice]⟩)
      | ok choice =>
          obtain ⟨name, names⟩ := choice
          exact .inr (.inr ⟨name, names, rfl, rfl, by
            simp only [nameOf, hbound, hchoice, bindVariable]⟩)

/-- **The outcomes of recording a value for a parameter.** -/
theorem recordParameter_cases (p : Parameter) (value : Value) (env : Environment) :
    (∃ name, env.boundParameters.lookup p = some name ∧
      recordParameter p value env = ⟨env.recordAgain name value, env, []⟩) ∨
    (∃ e, env.boundParameters.lookup p = none ∧
      env.choose .parameterName p.name "param" = .error e ∧
      recordParameter p value env = ⟨.error e, env, []⟩) ∨
    (∃ name names, env.boundParameters.lookup p = none ∧
      env.choose .parameterName p.name "param" = .ok (name, names) ∧
      recordParameter p value env =
        ⟨.ok name, env.bindParameter p name value names, [.parameterBound name value]⟩) := by
  cases hbound : env.boundParameters.lookup p with
  | some name => exact .inl ⟨name, rfl, by simp only [recordParameter, hbound]⟩
  | none =>
      cases hchoice : env.choose .parameterName p.name "param" with
      | error e => exact .inr (.inl ⟨e, rfl, rfl, by simp only [recordParameter, hbound, hchoice]⟩)
      | ok choice =>
          obtain ⟨name, names⟩ := choice
          exact .inr (.inr ⟨name, names, rfl, rfl, by
            simp only [recordParameter, hbound, hchoice, bindParameter]⟩)

/-- **A variable that cannot be named** leaves the environment as it is, and nothing is reported. -/
theorem nameOf_of_error {v : Variable} {env : Environment} {e : BuildError}
    (h : (nameOf v env).result = .error e) : nameOf v env = ⟨.error e, env, []⟩ := by
  rcases nameOf_cases v env with ⟨name, -, hstep⟩ | ⟨e', -, -, hstep⟩ | ⟨name, names, -, -, hstep⟩ <;>
    rw [hstep] at h ⊢ <;> cases h
  rfl

/-- **A value that cannot be recorded** leaves the environment as it is, and nothing is reported. -/
theorem recordParameter_of_error {p : Parameter} {value : Value} {env : Environment}
    {e : BuildError} (h : (recordParameter p value env).result = .error e) :
    recordParameter p value env = ⟨.error e, env, []⟩ := by
  rcases recordParameter_cases p value env with
    ⟨name, -, hstep⟩ | ⟨e', -, -, hstep⟩ | ⟨name, names, -, -, hstep⟩ <;> rw [hstep] at h ⊢
  · -- the parameter has a name, but the value is refused
    exact congrArg (fun r => Outcome.mk r env []) h
  · cases h
    rfl
  · cases h

/-- A value recorded again is refused or answered by the name there is. -/
theorem eq_of_recordAgain {env : Environment} {name answer : String} {value : Value}
    (h : env.recordAgain name value = .ok answer) : answer = name := by
  unfold recordAgain at h
  split at h
  · cases h; rfl
  · split at h
    · cases h; rfl
    · cases h

/-! ### Names that were given are kept -/

/-- **What was bound in one environment is bound in the other**, under the same names, and both
write labels with the same sign. -/
structure Extends (env later : Environment) : Prop where
  /-- Variables keep their names. -/
  variableNames : ∀ v name, env.boundVariables.lookup v = some name →
    later.boundVariables.lookup v = some name
  /-- Parameters keep their names. -/
  parameterNames : ∀ p name, env.boundParameters.lookup p = some name →
    later.boundParameters.lookup p = some name
  /-- The sign between labels stays the same. -/
  labelOperator : later.labelOperator = env.labelOperator

theorem Extends.refl (env : Environment) : env.Extends env :=
  ⟨fun _ _ h => h, fun _ _ h => h, rfl⟩

theorem Extends.trans {env mid later : Environment} (h₁ : env.Extends mid)
    (h₂ : mid.Extends later) : env.Extends later where
  variableNames v name h := h₂.variableNames v name (h₁.variableNames v name h)
  parameterNames p name h := h₂.parameterNames p name (h₁.parameterNames p name h)
  labelOperator := h₂.labelOperator.trans h₁.labelOperator

theorem extends_bindVariable (env : Environment) (v : Variable) (name : String) (names : Names) :
    env.Extends (env.bindVariable v name names) where
  variableNames w found h := by
    simp [bindVariable, lookup_append_singleton, h]
  parameterNames _ _ h := h
  labelOperator := rfl

theorem extends_bindParameter (env : Environment) (p : Parameter) (name : String) (value : Value)
    (names : Names) : env.Extends (env.bindParameter p name value names) where
  variableNames _ _ h := h
  parameterNames q found h := by
    simp [bindParameter, lookup_append_singleton, h]
  labelOperator := rfl

/-- Asking for the name of a variable keeps all names. -/
theorem extends_nameOf (v : Variable) (env : Environment) :
    env.Extends (nameOf v env).environment := by
  rcases nameOf_cases v env with ⟨name, -, h⟩ | ⟨e, -, -, h⟩ | ⟨name, names, -, -, h⟩ <;> rw [h]
  · exact Extends.refl env
  · exact Extends.refl env
  · exact extends_bindVariable env v name names

/-- Recording a value for a parameter keeps all names. -/
theorem extends_recordParameter (p : Parameter) (value : Value) (env : Environment) :
    env.Extends (recordParameter p value env).environment := by
  rcases recordParameter_cases p value env with
    ⟨name, -, h⟩ | ⟨e, -, -, h⟩ | ⟨name, names, -, -, h⟩ <;> rw [h]
  · exact Extends.refl env
  · exact Extends.refl env
  · exact extends_bindParameter env p name value names

/-- The name that a variable is given is bound afterwards. -/
theorem lookup_nameOf {v : Variable} {env : Environment} {name : String}
    (h : (nameOf v env).result = .ok name) :
    (nameOf v env).environment.boundVariables.lookup v = some name := by
  rcases nameOf_cases v env with ⟨known, hknown, hstep⟩ | ⟨e, -, -, hstep⟩ |
    ⟨new, names, hnew, -, hstep⟩ <;> rw [hstep] at h ⊢ <;> cases h
  · exact hknown
  · simp [bindVariable, lookup_append_singleton, hnew]

/-- The name that a parameter is given is bound afterwards. -/
theorem lookup_recordParameter {p : Parameter} {value : Value} {env : Environment} {name : String}
    (h : (recordParameter p value env).result = .ok name) :
    (recordParameter p value env).environment.boundParameters.lookup p = some name := by
  rcases recordParameter_cases p value env with ⟨known, hknown, hstep⟩ | ⟨e, -, -, hstep⟩ |
    ⟨new, names, hnew, -, hstep⟩ <;> rw [hstep] at h ⊢
  · -- the value may have been refused, but not if there is a name
    rw [eq_of_recordAgain h]
    exact hknown
  · cases h
  · cases h
    simp [bindParameter, lookup_append_singleton, hnew]

end Environment

end CypherQuery
