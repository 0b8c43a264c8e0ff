/-
**Reading values and records from nodes.**

What a node is read as depends on what is expected.  Where a text is expected every scalar gives
its text; where a value is expected scalars are resolved; where something may be absent a plain
null is its absence.  A record is a mapping whose keys are the names of its fields, or a sequence
of its fields in order.

Main definitions:

* `CypherQuery.Yaml.Node.text?`, `CypherQuery.Yaml.Node.bool?`, `CypherQuery.Yaml.Node.list?`,
  `CypherQuery.Yaml.Node.optional?` — reading with an expectation;
* `CypherQuery.Yaml.Node.value?` — **any value**;
* `CypherQuery.Yaml.RecordForm`, `CypherQuery.Yaml.Node.fields?` — **records**.
-/

import CypherQuery.Yaml.Node
import CypherQuery.Yaml.Resolution

set_option autoImplicit false

namespace CypherQuery.Yaml

/-- How many collections may be nested in a document. -/
def depthLimit : Nat := 128

namespace Node

/-! ### Scalars and lists -/

/-- The scalar that a node is. -/
def scalar? (node : Node) : Option Scalar :=
  match node.target? with
  | some (.scalar s) => some s
  | _ => none

/-- The text of a scalar. -/
def text? (node : Node) : Option String := node.scalar?.map Scalar.text

/-- What a scalar stands for. -/
def resolved? (node : Node) : Option Resolved := node.scalar?.bind Scalar.resolve?

/-- A truth value. -/
def bool? (node : Node) : Option Bool :=
  match node.resolved? with
  | some (.bool b) => some b
  | _ => none

/-- The items of a sequence. -/
def items? (node : Node) : Option (List Node) :=
  match node.target? with
  | some (.sequence items) => some items
  | _ => none

/-- The entries of a mapping. -/
def entries? (node : Node) : Option (List (Node × Node)) :=
  match node.target? with
  | some (.mapping entries) => some entries
  | _ => none

/-- A list. -/
def list? {α : Type} (read : Node → Option α) (node : Node) : Option (List α) :=
  node.items?.bind fun items => items.mapM read

/-- Whether a scalar stands for absence; a tag for null demands that. -/
def absence? (s : Scalar) : Option Bool :=
  if !s.isPlain then some false
  else
    match s.tag with
    | none => some (isNullText s.text)
    | some tag =>
        if tag.handle = "!!" ∧ tag.suffix = "null" then
          if isNullText s.text then some true else none
        else some false

/-- Something that may be absent. -/
def optional? {α : Type} (read : Node → Option α) (node : Node) : Option (Option α) :=
  match node.scalar? with
  | some s =>
      match absence? s with
      | some true => some none
      | some false => (read node).map some
      | none => none
  | none => (read node).map some

/-- Whether a node is null. -/
def isNull (node : Node) : Bool := node.resolved? == some .null

/-- One of some words: a scalar with that text, or a mapping whose single key is the word and
whose value is null.  A tag of the document's own must not be one of the words. -/
def word? (words : List String) (node : Node) : Option String :=
  match node.target? with
  | some (.scalar s) =>
      match s.tag with
      | some tag => if tag.handle = "!" ∧ tag.suffix ∈ words then none else s.text
      | none => s.text
  | some (.mapping [(.scalar s, value)]) => if value.isNull then s.text else none
  | _ => none

/-! ### Any value -/

mutual

/-- **Any value**, in which at most `room` collections are nested.  A double that is no finite
number is null. -/
def value? (room : Nat) : Node → Option Value
  | .scalar s => s.resolve?.bind Resolved.toValue?
  | .sequence items => if room = 0 then none else (values? (room - 1) items).map .list
  | .mapping entries =>
      if room = 0 then none
      else (valueEntries? (room - 1) entries).map fun es => .dictionary (Dictionary.ofEntries es)
  | .reference target => value? room target
  | .selfReference => none

/-- The values of the items of a sequence. -/
def values? (room : Nat) : List Node → Option (List Value)
  | [] => some []
  | item :: rest => do
      let v ← value? room item
      let vs ← values? room rest
      return v :: vs

/-- The keys and values of the entries of a mapping; every scalar key gives its text. -/
def valueEntries? (room : Nat) : List (Node × Node) → Option (List (String × Value))
  | [] => some []
  | (key, value) :: rest => do
      let k ← key.text?
      let v ← value? room value
      let es ← valueEntries? room rest
      return (k, v) :: es

end

/-- A dictionary of values, which is within `depthLimit - room` collections. -/
def dictionary? (room : Nat) (node : Node) : Option (Dictionary Value) :=
  match node.entries? with
  | some entries =>
      if room = 0 then none else (valueEntries? (room - 1) entries).map Dictionary.ofEntries
  | none => none

mutual

/-- Whether a node can be read at all: its scalars fit their tags, its whole numbers have at most
64 bits, and at most `room` collections are nested in it. -/
def isReadable (room : Nat) : Node → Bool
  | .scalar s =>
      match s.resolve? with
      | some .hugeInteger => false
      | some _ => true
      | none => false
  | .sequence items => room != 0 && areReadable (room - 1) items
  | .mapping entries => room != 0 && areEntriesReadable (room - 1) entries
  | .reference target => isReadable room target
  | .selfReference => false

/-- Whether the items of a sequence can be read. -/
def areReadable (room : Nat) : List Node → Bool
  | [] => true
  | item :: rest => isReadable room item && areReadable room rest

/-- Whether the entries of a mapping can be read. -/
def areEntriesReadable (room : Nat) : List (Node × Node) → Bool
  | [] => true
  | (key, value) :: rest =>
      isReadable room key && isReadable room value && areEntriesReadable room rest

end

end Node

/-! ### Records -/

/-- What is known of a record. -/
structure RecordForm where
  /-- The names of its fields, in order. -/
  names : List String
  /-- How many items a sequence must have that is read as the record. -/
  leastItems : Nat
  /-- Whether other keys of a mapping are ignored; otherwise they are refused. -/
  ignoresOthers : Bool
  deriving Repr

/-- The fields that were given. -/
abbrev Fields : Type := List (String × Node)

namespace Node

/-- The fields that the entries of a mapping give; none may be given twice. -/
def fieldsOfEntries? (form : RecordForm) : List (Node × Node) → Option Fields
  | [] => some []
  | (key, value) :: rest => do
      let name ← key.text?
      let fields ← fieldsOfEntries? form rest
      if name ∈ form.names then
        if (fields.lookup name).isSome then none else some ((name, value) :: fields)
      else if form.ignoresOthers then some fields
      else none

/-- The fields that the items of a sequence give. -/
def fieldsOfItems? (form : RecordForm) (items : List Node) : Option Fields :=
  if form.leastItems ≤ items.length ∧ items.length ≤ form.names.length then
    some (form.names.zip items)
  else none

/-- **The fields of a record.** -/
def fields? (form : RecordForm) (node : Node) : Option Fields :=
  match node.target? with
  | some (.mapping entries) => fieldsOfEntries? form entries
  | some (.sequence items) => fieldsOfItems? form items
  | _ => none

end Node

namespace Fields

variable {α : Type}

/-- A field that must be given. -/
def required? (fields : Fields) (name : String) (read : Node → Option α) : Option α :=
  (fields.lookup name).bind read

/-- A field with a standard value for where it is not given. -/
def getD? (fields : Fields) (name : String) (read : Node → Option α) (standard : α) :
    Option α :=
  match fields.lookup name with
  | some node => read node
  | none => some standard

/-- A field that need not be given, and that may be absent where it is. -/
def optional? (fields : Fields) (name : String) (read : Node → Option α) : Option (Option α) :=
  fields.getD? name (Node.optional? read) none

end Fields

end CypherQuery.Yaml
