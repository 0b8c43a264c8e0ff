/-
**Compiling a document from the command line.**

The configuration comes from a file or from the surroundings, and arguments override it.  Then the
document is read and compiled.  The text of the query is written out, and below it the parameters.

Files and variables are looked up by functions that are given, so that this does not depend on
where they come from.

Main definitions:

* `CypherQuery.CommandLine.Finished` — how a run ends;
* `CypherQuery.CommandLine.run` — **a run with given arguments**.
-/

import CypherQuery.CommandLine.Arguments
import CypherQuery.Config.Loading
import CypherQuery.Document.Decoding
import CypherQuery.Document.Query

set_option autoImplicit false

namespace CypherQuery.CommandLine

/-- How a run ends. -/
structure Finished where
  /-- The exit status. -/
  status : Nat
  /-- What is written to the output. -/
  output : String
  /-- What is written as an error, without a line break at the end. -/
  error : String
  deriving DecidableEq, Repr

namespace Finished

/-- A run that ends well. -/
def success (output : String) : Finished := ⟨0, output, ""⟩

/-- A run that fails. -/
def failure (message : String) : Finished := ⟨1, "", "Error: " ++ message⟩

/-- A run with wrong arguments. -/
def misuse (e : ArgumentError) : Finished := ⟨2, "", "error: " ++ e.message⟩

end Finished

/-- The name and the version of the program. -/
def versionText : String := "cypher-builder 0.1.0\n"

/-- The explanation of the arguments. -/
def helpText : String :=
  String.intercalate "\n"
    ["Programmatic Cypher query builder: compiles node/relationship/clause trees into " ++
        "query text plus parameters",
      "",
      "Usage: cypher-builder [OPTIONS] <DOCUMENT>",
      "",
      "Arguments:",
      "  <DOCUMENT>  YAML query document (pattern, where, return)",
      "",
      "Options:",
      "      --config <CONFIG>",
      "          YAML build configuration (prefix, label_operator, extra_params)",
      "      --prefix <PREFIX>",
      "          Prefix for generated names, overrides config and environment",
      "      --label-operator <LABEL_OPERATOR>",
      "          Separator between labels of a node (\":\" or \"&\")",
      "      --compact",
      "          Print the parameter map on a single line",
      "  -h, --help",
      "          Print help",
      "  -V, --version",
      "          Print version",
      ""]

/-- The configuration with what the arguments say in its place. -/
def Arguments.override (arguments : Arguments) (config : BuildConfig) : BuildConfig :=
  { config with
    namePrefix := arguments.namePrefix.getD config.namePrefix
    labelOperator := arguments.labelOperator.getD config.labelOperator }

/-- What is written for a result: the text, and the parameters below it. -/
def Arguments.outputText (arguments : Arguments) (result : BuildResult) : String :=
  let params := Value.dictionary result.params
  result.cypher ++ "\n" ++ (if arguments.compact then params.compact else params.pretty) ++ "\n"

/-- The compilation of a document. -/
def Arguments.compile (arguments : Arguments) (config : BuildConfig) (doc : QueryDocument) :
    Finished :=
  match doc.toQuery.result with
  | .error e => .failure e.message
  | .ok query =>
      match ((Construct.ofQuery query).build (arguments.override config)).result with
      | .error e => .failure e.message
      | .ok result => .success (arguments.outputText result)

section Run

variable {m : Type → Type} [Monad m]

/-- The configuration that the arguments ask for, or what is said if there is none. -/
def Arguments.loadConfig (arguments : Arguments) (readFile : String → m (Option String))
    (getEnv? : String → Option String) : m (Except String BuildConfig) := do
  match arguments.config with
  | some file =>
      match BuildConfig.ofFile (← readFile file) with
      | .ok config => return .ok config
      | .error _ => return .error ("Configuration error in " ++ file)
  | none =>
      match BuildConfig.ofSurroundings getEnv? with
      | .ok config => return .ok config
      | .error _ => return .error "Configuration error"

/-- A run that compiles a document. -/
def Arguments.run (arguments : Arguments) (readFile : String → m (Option String))
    (getEnv? : String → Option String) : m Finished := do
  match ← arguments.loadConfig readFile getEnv? with
  | .error message => return .failure message
  | .ok config =>
      match QueryDocument.ofFile (← readFile arguments.document) with
      | .error _ => return .failure ("Failed to load " ++ arguments.document)
      | .ok doc => return arguments.compile config doc

/-- **A run with given arguments.**  Files are read by `readFile`, and the variables of the
surroundings are those of `getEnv?`. -/
def run (readFile : String → m (Option String)) (getEnv? : String → Option String)
    (arguments : List String) : m Finished :=
  match Request.ofArguments arguments with
  | .error e => return .misuse e
  | .ok .help => return .success helpText
  | .ok .version => return .success versionText
  | .ok (.compile arguments) => arguments.run readFile getEnv?

end Run

end CypherQuery.CommandLine
