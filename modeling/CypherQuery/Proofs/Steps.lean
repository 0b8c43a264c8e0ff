/-
**Steps of a build, as a monad.**

The steps of `CypherQuery.BuildM` are a state monad with errors that keep the state and with log
records.  The laws of a monad hold to the letter, records included, so a renderer can be rewritten
step by step.

Apart from the names handed out, a renderer reports what it leaves out and what it has written.
`CypherQuery.BuildM.quiet` forgets those records and keeps the ones of level `debug`, which are
the names handed out.

Main definitions:

* `CypherQuery.BuildM.quiet` — a step without the records that are not of level `debug`.

Main results:

* `CypherQuery.BuildM.instLawfulMonad` — the laws of a monad;
* `CypherQuery.BuildM.quiet_bind`, `CypherQuery.BuildM.quiet_each` — **`quiet` goes through every
  way of putting steps together**.
-/

import CypherQuery.Proofs.NamingSteps

set_option autoImplicit false

namespace CypherQuery

variable {α β : Type}

/-! ### The laws of a monad -/

@[simp] theorem BuildM.pure_eq (a : α) : BuildM.pure a = (Pure.pure a : BuildM α) := rfl

theorem BuildM.pure_apply (a : α) (env : Environment) :
    (Pure.pure a : BuildM α) env = ⟨.ok a, env, []⟩ := rfl

theorem BuildM.bind_of_ok {x : BuildM α} {env : Environment} {a : α} (f : α → BuildM β)
    (h : (x env).result = .ok a) :
    (x >>= f) env = ⟨(f a (x env).environment).result, (f a (x env).environment).environment,
      (x env).log ++ (f a (x env).environment).log⟩ := by
  change BuildM.bind x f env = _
  simp only [BuildM.bind, h]

theorem BuildM.bind_of_error {x : BuildM α} {env : Environment} {e : BuildError}
    (f : α → BuildM β) (h : (x env).result = .error e) :
    (x >>= f) env = ⟨.error e, (x env).environment, (x env).log⟩ := by
  change BuildM.bind x f env = _
  simp only [BuildM.bind, h]

/-- A step with a result did each of its parts with a result. -/
theorem BuildM.ok_of_bind {x : BuildM α} {f : α → BuildM β} {env : Environment} {b : β}
    (h : ((x >>= f) env).result = .ok b) :
    ∃ a, (x env).result = .ok a ∧ (f a (x env).environment).result = .ok b := by
  cases hx : (x env).result with
  | ok a =>
      rw [BuildM.bind_of_ok f hx] at h
      exact ⟨a, rfl, h⟩
  | error e =>
      rw [BuildM.bind_of_error f hx] at h
      cases h

/-- A step that fails does so in one of its parts. -/
theorem BuildM.error_of_bind {x : BuildM α} {f : α → BuildM β} {env : Environment} {e : BuildError}
    (h : ((x >>= f) env).result = .error e) :
    (x env).result = .error e ∨
      ∃ a, (x env).result = .ok a ∧ (f a (x env).environment).result = .error e := by
  cases hx : (x env).result with
  | ok a =>
      rw [BuildM.bind_of_ok f hx] at h
      exact .inr ⟨a, rfl, h⟩
  | error e' =>
      rw [BuildM.bind_of_error f hx] at h
      cases h
      exact .inl rfl

/-- Looking at a result does not change an error. -/
theorem map_eq_error_iff {ε : Type} {f : α → β} {r : Except ε α} {e : ε} :
    r.map f = .error e ↔ r = .error e := by
  cases r <;> simp [Except.map]

/-- What is seen of a success is what it looks like. -/
theorem map_eq_ok_iff {ε : Type} {f : α → β} {r : Except ε α} {b : β} :
    r.map f = .ok b ↔ ∃ a, r = .ok a ∧ f a = b := by
  cases r <;> simp [Except.map]

/-- A step whose result is only looked at. -/
theorem BuildM.bind_pure_apply (x : BuildM α) (f : α → β) (env : Environment) :
    (x >>= fun a => Pure.pure (f a)) env =
      ⟨(x env).result.map f, (x env).environment, (x env).log⟩ := by
  cases h : (x env).result with
  | ok a => simp [BuildM.bind_of_ok _ h, BuildM.pure_apply, Except.map]
  | error e => simp [BuildM.bind_of_error _ h, Except.map]

instance BuildM.instLawfulMonad : LawfulMonad BuildM := by
  refine LawfulMonad.mk' BuildM ?_ ?_ ?_
  · intro α x
    funext env
    cases h : (x env).result with
    | ok a =>
        refine (BuildM.bind_of_ok _ h).trans ?_
        simp [BuildM.pure_apply, ← h]
    | error e =>
        refine (BuildM.bind_of_error _ h).trans ?_
        rw [← h]
  · intro α β a f
    funext env
    refine (BuildM.bind_of_ok (x := Pure.pure a) (a := a) f rfl).trans ?_
    simp [BuildM.pure_apply]
  · intro α β γ x f g
    funext env
    -- the steps fail together: at the first, at the second, or at neither
    cases hx : (x env).result with
    | error e =>
        have hxf := BuildM.bind_of_error f hx
        rw [BuildM.bind_of_error (x := x >>= f) g (by rw [hxf]),
          BuildM.bind_of_error (fun a => f a >>= g) hx, hxf]
    | ok a =>
        have hxf := BuildM.bind_of_ok f hx
        rw [BuildM.bind_of_ok (fun a => f a >>= g) hx]
        cases hf : (f a (x env).environment).result with
        | error e =>
            rw [BuildM.bind_of_error (x := x >>= f) g (by rw [hxf, hf]),
              BuildM.bind_of_error g hf, hxf]
        | ok b =>
            rw [BuildM.bind_of_ok (x := x >>= f) g (by rw [hxf, hf]),
              BuildM.bind_of_ok g hf, hxf]
            simp

@[simp] theorem BuildM.fail_bind (e : BuildError) (f : α → BuildM β) :
    BuildM.fail e >>= f = BuildM.fail e := rfl

theorem BuildM.ask_bind_pure (f : Environment → α) (g : α → β) :
    (BuildM.ask f >>= fun a => Pure.pure (g a)) = BuildM.ask fun env => g (f env) := rfl

theorem BuildM.ask_bind_ask (f : Environment → α) (g : α → Environment → β) :
    (BuildM.ask f >>= fun a => BuildM.ask (g a)) = BuildM.ask fun env => g (f env) env := rfl

@[simp] theorem BuildM.each_nil (step : α → BuildM β) : BuildM.each step [] = Pure.pure [] := rfl

@[simp] theorem BuildM.each_cons (step : α → BuildM β) (a : α) (rest : List α) :
    BuildM.each step (a :: rest) =
      step a >>= fun b => BuildM.each step rest >>= fun bs => Pure.pure (b :: bs) := rfl

theorem BuildM.each_append (step : α → BuildM β) (as bs : List α) :
    BuildM.each step (as ++ bs) =
      BuildM.each step as >>= fun xs => BuildM.each step bs >>= fun ys => Pure.pure (xs ++ ys) := by
  induction as with
  | nil => simp [-bind_pure_comp]
  | cons a rest ih => simp [-bind_pure_comp, ih]

theorem BuildM.each_map {γ : Type} (step : β → BuildM γ) (f : α → β) (as : List α) :
    BuildM.each step (as.map f) = BuildM.each (fun a => step (f a)) as := by
  induction as with
  | nil => rfl
  | cons a rest ih => simp [ih]

theorem BuildM.each_congr {step step' : α → BuildM β} {as : List α}
    (h : ∀ a ∈ as, step a = step' a) : BuildM.each step as = BuildM.each step' as := by
  induction as with
  | nil => rfl
  | cons a rest ih =>
      rw [BuildM.each_cons, BuildM.each_cons, h a (by simp),
        ih fun a' ha' => h a' (List.mem_cons_of_mem a ha')]

/-! ### The records of names handed out -/

/-- **A step without the records that are not of level `debug`.** -/
def BuildM.quiet (x : BuildM α) : BuildM α := fun env =>
  ⟨(x env).result, (x env).environment, (x env).log.filter fun r => r.level == .debug⟩

@[simp] theorem BuildM.quiet_pure (a : α) : BuildM.quiet (Pure.pure a) = Pure.pure a := rfl

@[simp] theorem BuildM.quiet_fail (e : BuildError) :
    BuildM.quiet (BuildM.fail e : BuildM α) = BuildM.fail e := rfl

@[simp] theorem BuildM.quiet_ask (f : Environment → α) :
    BuildM.quiet (BuildM.ask f) = BuildM.ask f := rfl

theorem BuildM.quiet_report {r : LogRecord} (h : r.level ≠ .debug) :
    BuildM.quiet (BuildM.report r) = Pure.pure () := by
  funext env
  simp [BuildM.quiet, BuildM.report, BuildM.pure_apply, h]

@[simp] theorem BuildM.quiet_bind (x : BuildM α) (f : α → BuildM β) :
    BuildM.quiet (x >>= f) = BuildM.quiet x >>= fun a => BuildM.quiet (f a) := by
  funext env
  cases h : (x env).result with
  | ok a =>
      rw [BuildM.bind_of_ok (x := BuildM.quiet x) _ h]
      simp [BuildM.quiet, BuildM.bind_of_ok f h]
  | error e =>
      rw [BuildM.bind_of_error (x := BuildM.quiet x) _ h]
      simp [BuildM.quiet, BuildM.bind_of_error f h]

@[simp] theorem BuildM.quiet_each (step : α → BuildM β) (as : List α) :
    BuildM.quiet (BuildM.each step as) = BuildM.each (fun a => BuildM.quiet (step a)) as := by
  induction as with
  | nil => rfl
  | cons a rest ih => simp [-bind_pure_comp, ih]

/-- Naming a variable has no other records. -/
@[simp] theorem BuildM.quiet_nameOf (v : Variable) :
    BuildM.quiet (Environment.nameOf v) = Environment.nameOf v := by
  funext env
  rcases Environment.nameOf_cases v env with
    ⟨name, -, h⟩ | ⟨e, -, -, h⟩ | ⟨name, names, -, -, h⟩ <;>
    simp [BuildM.quiet, h, LogRecord.level]

/-- Recording a parameter has no other records. -/
@[simp] theorem BuildM.quiet_recordParameter (p : Parameter) (value : Value) :
    BuildM.quiet (Environment.recordParameter p value) = Environment.recordParameter p value := by
  funext env
  rcases Environment.recordParameter_cases p value env with
    ⟨name, -, h⟩ | ⟨e, -, -, h⟩ | ⟨name, names, -, -, h⟩ <;>
    simp [BuildM.quiet, h, LogRecord.level]

@[simp] theorem BuildM.result_quiet (x : BuildM α) (env : Environment) :
    (BuildM.quiet x env).result = (x env).result := rfl

@[simp] theorem BuildM.environment_quiet (x : BuildM α) (env : Environment) :
    (BuildM.quiet x env).environment = (x env).environment := rfl

end CypherQuery
