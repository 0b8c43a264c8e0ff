/-
**The arguments of the command line.**

There is one document, and there are options, which may stand before or after it.  The value of an
option is the next argument, unless that starts with a hyphen, or follows an equals sign.  After
two hyphens every argument is a document.  A value is checked when the next argument is one that
is known, or at the end.

Main definitions:

* `CypherQuery.CommandLine.Arguments`, `CypherQuery.CommandLine.Request` — what is asked for;
* `CypherQuery.CommandLine.ArgumentError` — what can be wrong with arguments;
* `CypherQuery.CommandLine.Request.ofArguments` — **the request of a list of arguments**.
-/

import CypherQuery.LabelOperator
import CypherQuery.Text.Terminal

set_option autoImplicit false

namespace CypherQuery.CommandLine

/-- What is to be compiled, and how. -/
structure Arguments where
  /-- The file with the document. -/
  document : String
  /-- The file with the configuration. -/
  config : Option String
  /-- What generated names begin with. -/
  namePrefix : Option String
  /-- The sign between labels. -/
  labelOperator : Option LabelOperator
  /-- Whether the parameters are written on one line. -/
  compact : Bool
  deriving DecidableEq, Repr

/-- What is asked for. -/
inductive Request where
  /-- An explanation of the arguments. -/
  | help
  /-- The version of the program. -/
  | version
  /-- The compilation of a document. -/
  | compile (arguments : Arguments)
  deriving DecidableEq, Repr

/-- What takes a value. -/
inductive Slot where
  /-- The file with the document. -/
  | document
  /-- The file with the configuration. -/
  | config
  /-- What generated names begin with. -/
  | namePrefix
  /-- The sign between labels. -/
  | labelOperator
  deriving DecidableEq, Repr

namespace Slot

/-- How a slot is shown. -/
def usage : Slot → String
  | .document => "<DOCUMENT>"
  | .config => "--config <CONFIG>"
  | .namePrefix => "--prefix <PREFIX>"
  | .labelOperator => "--label-operator <LABEL_OPERATOR>"

/-- The option with a given name. -/
def ofOption? : String → Option Slot
  | "config" => some .config
  | "prefix" => some .namePrefix
  | "label-operator" => some .labelOperator
  | _ => none

end Slot

/-- What can be wrong with arguments. -/
inductive ArgumentError where
  /-- There is no document. -/
  | noDocument
  /-- An argument is not known, or there is one too many. -/
  | unexpected (argument : String)
  /-- A value is missing. -/
  | noValue (slot : Slot)
  /-- A value was given to an option that takes none. -/
  | unexpectedValue (option value : String)
  /-- An option was given twice. -/
  | repeated (usage : String)
  /-- A value is no label operator. -/
  | unknownLabelOperator (value : String) (cause : UnknownLabelOperator)
  deriving DecidableEq, Repr

namespace ArgumentError

/-- What is wrong, with the arguments in a style of their own. -/
def description : ArgumentError → String
  | .noDocument => "the following required arguments were not provided:"
  | .unexpected argument => "unexpected argument '" ++ Terminal.emphasised argument ++ "' found"
  | .noValue slot => "a value is required for '" ++ slot.usage ++ "' but none was supplied"
  | .unexpectedValue option value =>
      "unexpected value '" ++ Terminal.emphasised value ++ "' for '" ++ option ++
        "' found; no more were expected"
  | .repeated usage => "the argument '" ++ usage ++ "' cannot be used multiple times"
  | .unknownLabelOperator value cause =>
      "invalid value '" ++ Terminal.emphasised value ++ "' for '" ++ Slot.labelOperator.usage ++
        "': " ++ cause.message

/-- Where to learn more of the arguments. -/
def advice : String := "For more information, try '" ++ Terminal.emphasised "--help" ++ "'."

/-- What is said of an error, without commands to a terminal.  A command that is begun in an
argument ends with the style of the argument, and one that is begun elsewhere may go on in the
advice. -/
def message (e : ArgumentError) : String := Terminal.shown (e.description ++ "\n\n" ++ advice)

end ArgumentError

/-! ### Reading arguments -/

/-- What was read. -/
structure Reading where
  /-- The document. -/
  document : Option String
  /-- The file with the configuration. -/
  config : Option String
  /-- What generated names begin with. -/
  namePrefix : Option String
  /-- The sign between labels. -/
  labelOperator : Option LabelOperator
  /-- Whether the parameters are written on one line. -/
  compact : Bool
  /-- Whether a document was given, even if its value is pending. -/
  hasDocument : Bool
  /-- A slot whose value was not checked yet, and the value if it was given. -/
  pending : Option (Slot × Option String)
  deriving DecidableEq, Repr

namespace Reading

/-- Nothing was read. -/
def start : Reading := ⟨none, none, none, none, false, false, none⟩

/-- The name of a file, which must not be empty. -/
def file (slot : Slot) (value : String) : Except ArgumentError String :=
  if value.isEmpty then .error (.noValue slot) else .ok value

/-- Fills a slot, which must not be filled. -/
def store (r : Reading) (slot : Slot) (value : String) : Except ArgumentError Reading :=
  match slot with
  | .document => do
      let name ← file .document value
      return { r with document := some name }
  | .config =>
      if r.config.isSome then .error (.repeated slot.usage)
      else do
        let name ← file .config value
        return { r with config := some name }
  | .namePrefix =>
      if r.namePrefix.isSome then .error (.repeated slot.usage)
      else .ok { r with namePrefix := some value }
  | .labelOperator =>
      if r.labelOperator.isSome then .error (.repeated slot.usage)
      else
        match LabelOperator.read value with
        | .ok op => .ok { r with labelOperator := some op }
        | .error cause => .error (.unknownLabelOperator value cause)

/-- Checks the pending value. -/
def settle (r : Reading) : Except ArgumentError Reading :=
  match r.pending with
  | none => .ok r
  | some (slot, none) => .error (.noValue slot)
  | some (slot, some value) => { r with pending := none }.store slot value

/-- An argument that is no option: the document, of which there is one. -/
def positional (r : Reading) (argument : String) : Except ArgumentError Reading :=
  if r.hasDocument then .error (.unexpected argument)
  else do
    let r ← r.settle
    return { r with hasDocument := true, pending := some (.document, some argument) }

/-- An argument without a hyphen in front: the value of an option, or the document. -/
def plain (r : Reading) (argument : String) : Except ArgumentError Reading :=
  match r.pending with
  | some (slot, none) => .ok { r with pending := some (slot, some argument) }
  | _ => r.positional argument

/-- The switch for parameters on one line. -/
def switchCompact (r : Reading) : Except ArgumentError Reading := do
  let r ← r.settle
  if r.compact then .error (.repeated "--compact") else .ok { r with compact := true }

/-- An option that takes a value, and the value if it was given with it. -/
def option (r : Reading) (slot : Slot) (value : Option String) : Except ArgumentError Reading := do
  let r ← r.settle
  match value with
  | some value => r.store slot value
  | none => return { r with pending := some (slot, none) }

/-- The request at the end of the arguments. -/
def finish (r : Reading) : Except ArgumentError Request := do
  let r ← r.settle
  match r.document with
  | some document =>
      return .compile ⟨document, r.config, r.namePrefix, r.labelOperator, r.compact⟩
  | none => .error .noDocument

/-- The request of arguments after two hyphens. -/
def afterHyphens (r : Reading) : List String → Except ArgumentError Request
  | [] => r.finish
  | argument :: rest => do
      let r ← r.positional argument
      r.afterHyphens rest

end Reading

/-- A long option: its name, and the value after an equals sign. -/
def splitOption (cs : List Char) : String × Option String :=
  let name := String.ofList (cs.takeWhile (· != '='))
  match cs.dropWhile (· != '=') with
  | _ :: value => (name, some (String.ofList value))
  | [] => (name, none)

/-- What an argument is. -/
inductive Argument where
  /-- Two hyphens. -/
  | hyphens
  /-- A long option, and the value given with it. -/
  | long (name : String) (value : Option String)
  /-- Short options, of which only the first counts. -/
  | short (letter : Char)
  /-- Anything else. -/
  | plain (text : String)
  deriving DecidableEq, Repr

/-- What an argument is. -/
def Argument.ofText (text : String) : Argument :=
  match text.toList with
  | ['-', '-'] => .hyphens
  | '-' :: '-' :: cs => .long (splitOption cs).1 (splitOption cs).2
  | '-' :: c :: _ => .short c
  | _ => .plain text

/-- An answer that does not depend on the other arguments, once the pending value is checked. -/
def answer (r : Reading) (name : String) (value : Option String) (request : Request) :
    Except ArgumentError Request :=
  match value with
  | some value => .error (.unexpectedValue ("--" ++ name) value)
  | none => do
      let _ ← r.settle
      return request

/-- The request of arguments, after those that were read. -/
def Reading.request (r : Reading) : List String → Except ArgumentError Request
  | [] => r.finish
  | text :: rest =>
      match Argument.ofText text with
      | .hyphens => r.afterHyphens rest
      | .plain text => do
          let r ← r.plain text
          r.request rest
      | .short 'h' => answer r "help" none .help
      | .short 'V' => answer r "version" none .version
      | .short letter => .error (.unexpected (String.ofList ['-', letter]))
      | .long "help" value => answer r "help" value .help
      | .long "version" value => answer r "version" value .version
      | .long "compact" (some value) => .error (.unexpectedValue "--compact" value)
      | .long "compact" none => do
          let r ← r.switchCompact
          r.request rest
      | .long name value =>
          match Slot.ofOption? name with
          | some slot => do
              let r ← r.option slot value
              r.request rest
          | none => .error (.unexpected ("--" ++ name))

/-- **The request of a list of arguments.** -/
def Request.ofArguments (arguments : List String) : Except ArgumentError Request :=
  Reading.start.request arguments

end CypherQuery.CommandLine
