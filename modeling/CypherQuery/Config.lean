/-
**The configuration of a build.**

Main definitions:

* `CypherQuery.BuildConfig` — what can be configured;
* `CypherQuery.BuildConfig.isValid` — **whether a configuration may be used**: generated names
  begin with a plain identifier or with nothing.
-/

import CypherQuery.LabelOperator
import CypherQuery.Text.Identifier
import CypherQuery.Value.Basic

set_option autoImplicit false

namespace CypherQuery

/-- What can be configured. -/
structure BuildConfig where
  /-- What generated names begin with. -/
  namePrefix : String
  /-- The sign between labels. -/
  labelOperator : LabelOperator
  /-- Parameters that are handed over in any case. -/
  extraParams : List (String × Value)
  deriving DecidableEq, Repr

namespace BuildConfig

/-- The configuration that holds where nothing else is said. -/
def standard : BuildConfig := ⟨"", .colon, []⟩

/-- **Whether a configuration may be used.** -/
def isValid (config : BuildConfig) : Bool :=
  config.namePrefix.isEmpty || Identifier.isPlain config.namePrefix

end BuildConfig

end CypherQuery
