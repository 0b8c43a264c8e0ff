/-
**From YAML to query documents.**

A document, its nodes, relationships, filters and return items are records, and keys that they do
not have are refused.  A length is a number of hops, a mapping with two optional bounds, whose
other keys are ignored, or a text.

Main definitions:

* `CypherQuery.DocumentLength.ofNode?` — lengths;
* `CypherQuery.QueryDocument.ofNode?`, `CypherQuery.QueryDocument.ofYaml?` — **documents**;
* `CypherQuery.QueryDocument.ofFile` — the document in a file, or why there is none.
-/

import CypherQuery.Document.Basic
import CypherQuery.Yaml.Decoding
import CypherQuery.Yaml.Node.Reading

set_option autoImplicit false

namespace CypherQuery

open CypherQuery.Yaml

/-! ### Depths

How many collections a part of a document is in. -/

/-- The values of properties and lengths: in the document, its pattern and an element. -/
def elementDepth : Nat := 3

/-- The values of filters: in the document, the list of filters and a filter. -/
def filterDepth : Nat := 3

/-! ### Lengths -/

namespace DocumentLength

/-- Numbers of hops have 32 bits. -/
def hops? (n : Int) : Option Nat := if 0 ≤ n ∧ n < pow2 32 then some n.toNat else none

/-- The two bounds of a length. -/
inductive Bound where
  /-- The least number of hops. -/
  | least
  /-- The greatest number of hops. -/
  | greatest
  deriving DecidableEq, Repr

/-- What the key of a bound can be: its name or its number.  The outer result says whether the key
can be read, the inner one which bound it is, if it is one.  The numbers 0 and 1 are not documented
anywhere as keys of a length; they are taken for the least and the greatest number of hops. -/
def bound? (key : Node) : Option (Option Bound) :=
  match key.resolved? with
  | some (.text "min") => some (some .least)
  | some (.text "max") => some (some .greatest)
  | some (.text _) => some none
  | some (.integer 0) => if isUnsigned key then some (some .least) else none
  | some (.integer 1) => if isUnsigned key then some (some .greatest) else none
  | some (.integer n) => if 0 ≤ n ∧ isUnsigned key then some none else none
  | _ => none
where
  /-- Whether a whole number has neither a minus nor a tag. -/
  isUnsigned (key : Node) : Bool :=
    match key.scalar? with
    | some s => s.tag.isNone && s.text.toList.head? != some '-'
    | none => false

/-- The value of a bound: a number of hops or null. -/
def boundValue? (node : Node) : Option (Option Nat) :=
  match node.resolved? with
  | some .null => some none
  | some (.integer n) => (hops? n).map some
  | _ => none

/-- The values of the bounds that the entries of a mapping give; none may be given twice. -/
def bounds? : List (Node × Node) → Option (List (Bound × Option Nat))
  | [] => some []
  | (key, value) :: rest => do
      let bound ← bound? key
      let given ← bounds? rest
      match bound with
      | none => return given
      | some b =>
          if (given.lookup b).isSome then none
          else
            let n ← boundValue? value
            return (b, n) :: given

/-- **A length.** -/
def ofNode? (node : Node) : Option DocumentLength :=
  match node.target? with
  | some (.scalar s) =>
      match s.resolve? with
      | some (.integer n) => (hops? n).map .exactly
      | some (.text s) => some (.text s)
      | _ => none
  | some (.mapping entries) =>
      if Node.areEntriesReadable (depthLimit - elementDepth - 1) entries then
        (bounds? entries).map fun given =>
          .between (given.lookup .least).join (given.lookup .greatest).join
      else none
  | _ => none

end DocumentLength

/-! ### Elements -/

/-- The record of a node. -/
def DocumentNode.form : RecordForm := ⟨["var", "labels", "properties"], 0, false⟩

/-- A node. -/
def DocumentNode.ofNode? (node : Node) : Option DocumentNode := do
  let fields ← node.fields? DocumentNode.form
  let key ← fields.optional? "var" Node.text?
  let labels ← fields.getD? "labels" (Node.list? Node.text?) []
  let properties ← fields.getD? "properties" (Node.dictionary? (depthLimit - elementDepth)) []
  return ⟨key, labels, properties⟩

/-- The record of a relationship. -/
def DocumentRelationship.form : RecordForm :=
  ⟨["var", "type", "direction", "length", "properties"], 0, false⟩

/-- A direction. -/
def directionOfNode? (node : Node) : Option Direction :=
  (node.word? ["left", "right", "undirected"]).bind Direction.ofWord?

/-- A relationship. -/
def DocumentRelationship.ofNode? (node : Node) : Option DocumentRelationship := do
  let fields ← node.fields? DocumentRelationship.form
  let key ← fields.optional? "var" Node.text?
  let relationType ← fields.optional? "type" Node.text?
  let direction ← fields.getD? "direction" directionOfNode? .right
  let length ← fields.optional? "length" DocumentLength.ofNode?
  let properties ← fields.getD? "properties" (Node.dictionary? (depthLimit - elementDepth)) []
  return ⟨key, relationType, direction, length, properties⟩

/-- An element: a mapping whose single key says which sort it is. -/
def DocumentElement.ofNode? (node : Node) : Option DocumentElement :=
  match node.target? with
  | some (.mapping [(.scalar sort, content)]) =>
      if sort.text = "node" then (DocumentNode.ofNode? content).map .node
      else if sort.text = "relationship" then
        (DocumentRelationship.ofNode? content).map .relationship
      else none
  | _ => none

/-! ### Filters, return items and documents -/

/-- The record of a filter. -/
def DocumentFilter.form : RecordForm := ⟨["var", "property", "equals"], 3, false⟩

/-- A filter. -/
def DocumentFilter.ofNode? (node : Node) : Option DocumentFilter := do
  let fields ← node.fields? DocumentFilter.form
  let key ← fields.required? "var" Node.text?
  let property ← fields.required? "property" Node.text?
  let value ← fields.required? "equals" (Node.value? (depthLimit - filterDepth))
  return ⟨key, property, value⟩

/-- The record of a return item. -/
def DocumentReturn.form : RecordForm := ⟨["var", "property", "alias"], 3, false⟩

/-- A return item. -/
def DocumentReturn.ofNode? (node : Node) : Option DocumentReturn := do
  let fields ← node.fields? DocumentReturn.form
  let key ← fields.required? "var" Node.text?
  let property ← fields.optional? "property" Node.text?
  let name ← fields.optional? "alias" Node.text?
  return ⟨key, property, name⟩

namespace QueryDocument

/-- The record of a document. -/
def form : RecordForm :=
  ⟨["optional", "named_variables", "pattern", "where", "return"], 3, false⟩

/-- **The document that a node holds.** -/
def ofNode? (node : Node) : Option QueryDocument := do
  let fields ← node.fields? form
  let optional ← fields.getD? "optional" Node.bool? false
  let namedVariables ← fields.getD? "named_variables" Node.bool? false
  let elements ← fields.required? "pattern" (Node.list? DocumentElement.ofNode?)
  let filters ← fields.getD? "where" (Node.list? DocumentFilter.ofNode?) []
  let returns ← fields.getD? "return" (Node.list? DocumentReturn.ofNode?) []
  return ⟨optional, namedVariables, elements, filters, returns⟩

/-- **The document that a YAML text holds.** -/
def ofYaml? (content : String) : Option QueryDocument := (Node.ofText? content).bind ofNode?

end QueryDocument

/-! ### Files -/

/-- Why a file holds no document. -/
inductive DocumentFileError where
  /-- There is no such file. -/
  | missingFile
  /-- The content of the file is no document. -/
  | malformedFile
  deriving DecidableEq, Repr

/-- The wording of an error, as far as it does not depend on the YAML reader. -/
def DocumentFileError.message? : DocumentFileError → Option String
  | .missingFile => some ("Could not read query document: " ++ missingFileText)
  | .malformedFile => none

/-- **The document in a file**, given the content of the file if there is one. -/
def QueryDocument.ofFile : Option String → Except DocumentFileError QueryDocument
  | some content =>
      match ofYaml? content with
      | some doc => .ok doc
      | none => .error .malformedFile
  | none => .error .missingFile

end CypherQuery
