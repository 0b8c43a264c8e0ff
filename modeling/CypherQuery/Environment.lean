/-
**The environment of a build.**

While a query is written, the environment remembers the name of every variable and parameter met
so far, and the values of the parameters.  A name is given when an identity is met for the first
time, and never changes.

The steps of a build run in the monad `BuildM`: a step has a result or an error, leaves an
environment behind in either case, and reports what it does.

Main definitions:

* `CypherQuery.Environment` — the environment;
* `CypherQuery.Outcome`, `CypherQuery.BuildM` — what a step leads to, and the steps;
* `CypherQuery.Environment.nameOf` — **the name of a variable**;
* `CypherQuery.Environment.recordParameter` — **the name of a parameter**, with its value
  recorded;
* `CypherQuery.Environment.mergeExtras` — the parameters at the end of a build.
-/

import CypherQuery.LabelOperator
import CypherQuery.Log
import CypherQuery.Naming

set_option autoImplicit false

namespace CypherQuery

/-- What is known while a query is written. -/
structure Environment where
  /-- The names handed out. -/
  names : Names
  /-- The variables met so far, in order, with their names. -/
  boundVariables : List (Variable × String)
  /-- The parameters met so far, in order, with their names. -/
  boundParameters : List (Parameter × String)
  /-- The values of the parameters, under their names. -/
  params : Dictionary Value
  /-- The sign between labels. -/
  labelOperator : LabelOperator
  deriving DecidableEq, Repr

/-! ### Steps of a build -/

/-- What a step of a build leads to. -/
structure Outcome (α : Type) where
  /-- The result, or the error. -/
  result : Except BuildError α
  /-- The environment left behind, also by an error. -/
  environment : Environment
  /-- The records, in order. -/
  log : List LogRecord

/-- A step of a build. -/
def BuildM (α : Type) : Type := Environment → Outcome α

namespace BuildM

variable {α β : Type}

/-- A step that does nothing but return a result. -/
def pure (a : α) : BuildM α := fun env => ⟨.ok a, env, []⟩

/-- A step that fails and does nothing else. -/
def fail (e : BuildError) : BuildM α := fun env => ⟨.error e, env, []⟩

/-- A step that reports something. -/
def report (r : LogRecord) : BuildM Unit := fun env => ⟨.ok (), env, [r]⟩

/-- A step that looks at the environment. -/
def ask (f : Environment → α) : BuildM α := fun env => ⟨.ok (f env), env, []⟩

/-- One step, and with its result the next; an error ends the whole. -/
def bind (x : BuildM α) (f : α → BuildM β) : BuildM β := fun env =>
  match (x env).result with
  | .ok a =>
      let next := f a (x env).environment
      ⟨next.result, next.environment, (x env).log ++ next.log⟩
  | .error e => ⟨.error e, (x env).environment, (x env).log⟩

instance : Monad BuildM where
  pure := BuildM.pure
  bind := BuildM.bind

/-- One step after the other over a list, with all results. -/
def each (step : α → BuildM β) : List α → BuildM (List β)
  | [] => pure []
  | a :: rest => do
      let b ← step a
      let bs ← each step rest
      return b :: bs

end BuildM

namespace Environment

/-- The environment at the beginning of a build. -/
def start (namePrefix : String) (labelOperator : LabelOperator) : Environment :=
  ⟨.empty namePrefix, [], [], [], labelOperator⟩

/-! ### Naming -/

/-- A name for an identity that has none yet: its explicit name, or a generated one. -/
def choose (env : Environment) (nameClass : NameClass) (explicit : Option String) (stem : String) :
    Except BuildError (String × Names) :=
  match explicit with
  | some name => (env.names.claim nameClass name).map fun names => (name, names)
  | none => .ok (env.names.generate nameClass stem)

/-- **The name of a variable**, given when it is met for the first time. -/
def nameOf (v : Variable) : BuildM String := fun env =>
  match env.boundVariables.lookup v with
  | some name => ⟨.ok name, env, []⟩
  | none =>
      match env.choose .variableName v.name v.kind.stem with
      | .error e => ⟨.error e, env, []⟩
      | .ok (name, names) =>
          ⟨.ok name,
            { env with names := names, boundVariables := env.boundVariables ++ [(v, name)] },
            [.variableBound v.kind name]⟩

/-- Records a value for a parameter that has a name already: it has to be the value recorded
before. -/
def recordAgain (env : Environment) (name : String) (value : Value) : Except BuildError String :=
  match Dictionary.get? env.params name with
  | none => .ok name
  | some bound =>
      if bound.same value then .ok name else .error (.ambiguousParameter name bound value)

/-- **The name of a parameter**, given when it is met for the first time; the value is recorded
then, and has to be the same every other time. -/
def recordParameter (p : Parameter) (value : Value) : BuildM String := fun env =>
  match env.boundParameters.lookup p with
  | some name => ⟨env.recordAgain name value, env, []⟩
  | none =>
      match env.choose .parameterName p.name "param" with
      | .error e => ⟨.error e, env, []⟩
      | .ok (name, names) =>
          ⟨.ok name,
            { env with
              names := names
              boundParameters := env.boundParameters ++ [(p, name)]
              params := Dictionary.insert env.params name value },
            [.parameterBound name value]⟩

/-! ### The end of a build -/

/-- Adds parameters whose names are given.  A name must be no other parameter's. -/
def addExtras : Environment → List (String × Value) → Except BuildError Environment
  | env, [] => .ok env
  | env, (name, value) :: rest =>
      match env.names.claim .parameterName name with
      | .error e => .error e
      | .ok names =>
          addExtras { env with names := names, params := Dictionary.insert env.params name value }
            rest

/-- **The parameters at the end of a build**: those recorded, and the extra ones. -/
def mergeExtras (env : Environment) (extras : List (String × Value)) :
    Except BuildError (Dictionary Value) :=
  (env.addExtras extras).map Environment.params

end Environment

end CypherQuery
