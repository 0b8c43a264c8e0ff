/-
**Log records.**

A computation that reports what it does has a result and the records it emitted, in order; the
records before an error are kept.

Main definitions:

* `CypherQuery.LogLevel`, `CypherQuery.LogRecord` — the records and how severe they are;
* `CypherQuery.LogRecord.message` — their wording;
* `CypherQuery.Logged` — **a result with the records on the way to it**.
-/

import CypherQuery.Identity
import CypherQuery.Value.Printer

set_option autoImplicit false

namespace CypherQuery

/-- How severe a record is. -/
inductive LogLevel where
  /-- Something failed. -/
  | error
  /-- Something is probably not as intended. -/
  | warn
  /-- Something of interest to every user. -/
  | info
  /-- Something of interest when looking for a fault. -/
  | debug
  /-- Every step. -/
  | trace
  deriving DecidableEq, Repr

namespace LogLevel

/-- The rank of a level; the more severe it is, the smaller. -/
def rank : LogLevel → Nat
  | .error => 0
  | .warn => 1
  | .info => 2
  | .debug => 3
  | .trace => 4

/-- The level in capital letters. -/
def title : LogLevel → String
  | .error => "ERROR"
  | .warn => "WARN"
  | .info => "INFO"
  | .debug => "DEBUG"
  | .trace => "TRACE"

end LogLevel

/-- The two sorts of elements of a pattern. -/
inductive ElementSort where
  /-- A node. -/
  | node
  /-- A relationship. -/
  | relationship
  deriving DecidableEq, Repr

/-- What can be reported. -/
inductive LogRecord where
  /-- A relationship may be followed over very many hops. -/
  | longPath (hops : Nat)
  /-- The annotations of an element were left out, because its variable occurred before; the name
  is as written. -/
  | annotationsDropped (sort : ElementSort) (writtenName : String)
  /-- A variable was given a name. -/
  | variableBound (kind : VariableKind) (name : String)
  /-- A parameter was given a name and a value. -/
  | parameterBound (name : String) (value : Value)
  /-- An element of a pattern was written; the text is without its brackets. -/
  | elementWritten (sort : ElementSort) (text : String)
  /-- A build came to its end. -/
  | buildFinished (bytes : Nat) (parameters : Nat)
  deriving DecidableEq, Repr

namespace LogRecord

/-- How severe a record is. -/
def level : LogRecord → LogLevel
  | .longPath _ => .warn
  | .annotationsDropped _ _ => .warn
  | .variableBound _ _ => .debug
  | .parameterBound _ _ => .debug
  | .elementWritten _ _ => .trace
  | .buildFinished _ _ => .debug

/-- The wording of a record. -/
def message : LogRecord → String
  | .longPath hops =>
      "Variable-length relationship with up to " ++ toString hops ++
        " hops may be expensive to execute"
  | .annotationsDropped sort writtenName =>
      "PatternRenderer: " ++
        (match sort with | .node => "labels/properties" | .relationship => "type/properties") ++
        " on repeated occurrence of '" ++ writtenName ++
        "' ignored; annotate the first occurrence instead"
  | .variableBound kind name =>
      "Environment: " ++ kind.title ++ " variable bound to '" ++ name ++ "'"
  | .parameterBound name value => "Environment: parameter '" ++ name ++ "' = " ++ value.compact
  | .elementWritten .node text => "PatternRenderer: node (" ++ text ++ ")"
  | .elementWritten .relationship text => "PatternRenderer: relationship [" ++ text ++ "]"
  | .buildFinished bytes parameters =>
      "build: rendered " ++ toString bytes ++ " bytes of Cypher with " ++ toString parameters ++
        " parameter(s)"

/-- The records that are at least as severe as a level. -/
def filter (atLeast : LogLevel) (records : List LogRecord) : List LogRecord :=
  records.filter fun r => decide (r.level.rank ≤ atLeast.rank)

end LogRecord

/-- **A result with the records on the way to it.** -/
structure Logged (ε α : Type) where
  /-- The result. -/
  result : Except ε α
  /-- The records, in order. -/
  log : List LogRecord

namespace Logged

variable {ε ε' α β : Type}

/-- A result without records. -/
def pure (a : α) : Logged ε α := ⟨.ok a, []⟩

/-- An error without records. -/
def fail (e : ε) : Logged ε α := ⟨.error e, []⟩

/-- A result or an error without records. -/
def ofExcept (x : Except ε α) : Logged ε α := ⟨x, []⟩

/-- A single record. -/
def report (r : LogRecord) : Logged ε Unit := ⟨.ok (), [r]⟩

/-- One computation, and with its result the next; an error ends the whole. -/
def bind (x : Logged ε α) (f : α → Logged ε β) : Logged ε β :=
  match x.result with
  | .ok a => ⟨(f a).result, x.log ++ (f a).log⟩
  | .error e => ⟨.error e, x.log⟩

instance : Monad (Logged ε) where
  pure := Logged.pure
  bind := Logged.bind

instance instLawfulMonad : LawfulMonad (Logged ε) := by
  refine LawfulMonad.mk' (Logged ε) ?_ (fun _ _ => rfl) ?_
  · intro α x
    change Logged.bind x (fun a => Logged.pure a) = x
    obtain ⟨result, log⟩ := x
    cases result with
    | error e => rfl
    | ok a => exact congrArg (Logged.mk (.ok a)) (List.append_nil log)
  · intro α β γ x f g
    change Logged.bind (Logged.bind x f) g = Logged.bind x fun a => Logged.bind (f a) g
    unfold Logged.bind
    cases x.result with
    | error e => rfl
    | ok a =>
        dsimp only
        cases (f a).result with
        | error e => rfl
        | ok b => exact congrArg (Logged.mk (g b).result) (List.append_assoc _ _ _)

/-- The same computation with its errors seen as errors of another type. -/
def mapError (f : ε → ε') (x : Logged ε α) : Logged ε' α := ⟨x.result.mapError f, x.log⟩

end Logged

end CypherQuery
