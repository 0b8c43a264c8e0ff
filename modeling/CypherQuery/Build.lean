/-
**Builds: from a construct to text and parameters.**

A build checks its configuration, writes the construct in a fresh environment, and adds the extra
parameters to those recorded on the way.  It returns both text and parameters or an error.

A session is a build whose text is not that of a construct: it performs steps on the environment
one after the other, and a step that fails does not keep the next ones from being performed.

Main definitions:

* `CypherQuery.BuildResult`, `CypherQuery.Construct.build` — **a build**;
* `CypherQuery.SessionStep`, `CypherQuery.SessionStep.run` — the steps of a session;
* `CypherQuery.finish` — the end of both.
-/

import CypherQuery.Config
import CypherQuery.Construct

set_option autoImplicit false

namespace CypherQuery

/-- What a build returns. -/
structure BuildResult where
  /-- The text of the query. -/
  cypher : String
  /-- The parameters to hand over beside it. -/
  params : Dictionary Value
  deriving DecidableEq, Repr

/-- The environment in which a build starts, if its configuration may be used. -/
def BuildConfig.startEnvironment (config : BuildConfig) : Except BuildError Environment :=
  if config.isValid then .ok (.start config.namePrefix config.labelOperator)
  else .error .invalidNamePrefix

/-- The end of a build with the given text: the extra parameters are added. -/
def finish (config : BuildConfig) (env : Environment) (cypher : String) :
    Logged BuildError BuildResult :=
  match env.mergeExtras config.extraParams with
  | .ok params => ⟨.ok ⟨cypher, params⟩, [.buildFinished cypher.utf8ByteSize params.length]⟩
  | .error e => .fail e

namespace Construct

/-- A build from a given environment on. -/
def buildFrom (c : Construct) (config : BuildConfig) (env : Environment) :
    Logged BuildError BuildResult :=
  let written := c.render env
  match written.result with
  | .ok cypher =>
      let last := finish config written.environment cypher
      ⟨last.result, written.log ++ last.log⟩
  | .error e => ⟨.error e, written.log⟩

/-- **A build.** -/
def build (c : Construct) (config : BuildConfig) : Logged BuildError BuildResult :=
  match config.startEnvironment with
  | .ok env => c.buildFrom config env
  | .error e => .fail e

end Construct

/-! ### Sessions -/

/-- A step of a session. -/
inductive SessionStep where
  /-- Asks for the name of a variable. -/
  | name (v : Variable)
  /-- Records a value for a parameter and asks for its name. -/
  | record (p : Parameter) (value : Value)
  /-- Writes a construct. -/
  | write (c : Construct)
  /-- Asks for what generated names begin with. -/
  | askNamePrefix
  /-- Asks for the sign between labels. -/
  | askLabelOperator
  deriving Repr

/-- What a step answers, and what it does to the environment. -/
def SessionStep.run : SessionStep → BuildM String
  | .name v => Environment.nameOf v
  | .record p value => Environment.recordParameter p value
  | .write c => c.render
  | .askNamePrefix => BuildM.ask fun env => env.names.namePrefix
  | .askLabelOperator => BuildM.ask fun env => env.labelOperator.separator

end CypherQuery
