/-
**Where configurations come from.**

A configuration is read from a YAML record, all of whose fields may be left out, or from two
variables of the surroundings.  In either case it has to be valid.

Main definitions:

* `CypherQuery.ConfigError` — what can go wrong, and its wording;
* `CypherQuery.BuildConfig.ofNode?` — the configuration that a YAML node holds;
* `CypherQuery.BuildConfig.ofFile`, `CypherQuery.BuildConfig.ofSurroundings` —
  **the two sources**.
-/

import CypherQuery.Config
import CypherQuery.Error
import CypherQuery.Yaml.Decoding
import CypherQuery.Yaml.Node.Reading

set_option autoImplicit false

namespace CypherQuery

open CypherQuery.Yaml

/-! ### Errors -/

/-- What can go wrong when a configuration is loaded. -/
inductive ConfigError where
  /-- There is no such file. -/
  | missingFile
  /-- The content of the file is no configuration. -/
  | malformedFile (content : String)
  /-- A variable does not hold a label operator. -/
  | unknownLabelOperator (variableName value : String) (cause : UnknownLabelOperator)
  /-- The beginning of generated names is no plain identifier. -/
  | invalidNamePrefix
  deriving DecidableEq, Repr

namespace ConfigError

/-- What could not be parsed: a field, and its value. -/
def source? : ConfigError → Option (String × String)
  | .missingFile => some ("yaml_file", "file read failed")
  | .malformedFile content => some ("yaml_content", content)
  | .unknownLabelOperator variableName value _ => some (variableName, value)
  | .invalidNamePrefix => none

/-- The wording of an error, as far as it does not depend on the YAML reader. -/
def message? : ConfigError → Option String
  | .missingFile =>
      some ("Parse error for yaml_file: file read failed - " ++ missingFileText)
  | .malformedFile _ => none
  | .unknownLabelOperator variableName value cause =>
      some ("Parse error for " ++ variableName ++ ": " ++ value ++ " - " ++ cause.message)
  | .invalidNamePrefix => some ("Validation error: " ++ BuildError.namePrefixMessage)

end ConfigError

namespace BuildConfig

/-- A configuration, if it may be used. -/
def validated (config : BuildConfig) : Except ConfigError BuildConfig :=
  if config.isValid then .ok config else .error .invalidNamePrefix

/-! ### From YAML -/

/-- The record of a configuration.  Other keys are ignored. -/
def form : RecordForm := ⟨["prefix", "label_operator", "extra_params"], 0, true⟩

/-- A label operator, by its sign. -/
def labelOperatorOfNode? (node : Node) : Option LabelOperator :=
  (node.word? [":", "&"]).bind LabelOperator.ofSign?

/-- How many collections an extra parameter is in. -/
def extraParamDepth : Nat := 3

/-- An extra parameter: a sequence of its name and its value. -/
def extraParamOfNode? (node : Node) : Option (String × Value) :=
  match node.items? with
  | some [name, value] => do
      let name ← name.text?
      let value ← value.value? (depthLimit - extraParamDepth)
      return (name, value)
  | _ => none

/-- The configuration that a node holds. -/
def ofNode? (node : Node) : Option BuildConfig := do
  let fields ← node.fields? form
  let namePrefix ← fields.getD? "prefix" Node.text? ""
  let labelOperator ← fields.getD? "label_operator" labelOperatorOfNode? .colon
  let extraParams ← fields.getD? "extra_params" (Node.list? extraParamOfNode?) []
  return ⟨namePrefix, labelOperator, extraParams⟩

/-- The configuration that a YAML text holds. -/
def ofYaml (content : String) : Except ConfigError BuildConfig :=
  match (Node.ofText? content).bind ofNode? with
  | some config => config.validated
  | none => .error (.malformedFile content)

/-- **The configuration in a file**, given the content of the file if there is one. -/
def ofFile : Option String → Except ConfigError BuildConfig
  | some content => ofYaml content
  | none => .error .missingFile

/-! ### From the surroundings -/

/-- The variable for what generated names begin with. -/
def namePrefixVariable : String := "CYPHER_BUILDER_PREFIX"

/-- The variable for the sign between labels. -/
def labelOperatorVariable : String := "CYPHER_BUILDER_LABEL_OPERATOR"

/-- **The configuration that the surroundings give**: a variable that is not set leaves the
standard. -/
def ofSurroundings (get? : String → Option String) : Except ConfigError BuildConfig :=
  let operatorText := (get? labelOperatorVariable).getD LabelOperator.colon.separator
  match LabelOperator.read operatorText with
  | .ok labelOperator => validated ⟨(get? namePrefixVariable).getD "", labelOperator, []⟩
  | .error cause => .error (.unknownLabelOperator labelOperatorVariable operatorText cause)

end BuildConfig

end CypherQuery
