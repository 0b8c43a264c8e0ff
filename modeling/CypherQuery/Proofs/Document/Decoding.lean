/-
**How records and lengths are read.**

The reader of a document follows three rules.  A record that refuses other keys is not read if a key
is none of its names; a record that ignores them is read as if their entries were not there, as long
as the keys are texts.  A length can be written in three ways, and the first one that fits is taken.
The bounds of a length are found under their names; the numbers of the two bounds are taken in the
place of the names as well, although nothing says so where documents are described.

Main definitions:

* `CypherQuery.Yaml.RecordForm.hasField` — the keys of a record;
* `CypherQuery.DocumentLength.hopsOfNode?`, `CypherQuery.DocumentLength.boundsOfNode?`,
  `CypherQuery.DocumentLength.textOfNode?` — the three ways to write a length.

Main results:

* `CypherQuery.fieldsOfEntries?_of_stray` — **other keys are refused**;
* `CypherQuery.fieldsOfEntries?_filter_hasField` — **other keys are ignored**;
* `CypherQuery.DocumentLength.ofNode?_eq_or` — **the first way that fits**;
* `CypherQuery.DocumentLength.bound?_eq_some_some_iff` — the keys of the bounds.
-/

import CypherQuery.Document.Decoding

set_option autoImplicit false

namespace CypherQuery

open CypherQuery.Yaml

/-! ### Records -/

/-- Whether a record has a field for a key. -/
def Yaml.RecordForm.hasField (form : RecordForm) (key : Node) : Bool :=
  key.text?.any fun name => name ∈ form.names

section

variable {form : RecordForm}

theorem hasField_eq_true_iff {key : Node} :
    form.hasField key = true ↔ ∃ name, key.text? = some name ∧ name ∈ form.names := by
  simp [Yaml.RecordForm.hasField, Option.any_eq_true]

/-- An entry for which there is a field. -/
theorem fieldsOfEntries?_cons {key value : Node} {name : String} (hkey : key.text? = some name)
    (hname : name ∈ form.names) (rest : List (Node × Node)) :
    Node.fieldsOfEntries? form ((key, value) :: rest) =
      (Node.fieldsOfEntries? form rest).bind fun fields =>
        if (fields.lookup name).isSome then none else some ((name, value) :: fields) := by
  rw [Node.fieldsOfEntries?, hkey, Option.bind_eq_bind, Option.bind_some]
  simp only [if_pos hname, Option.bind_eq_bind]

/-- An entry for which there is no field. -/
theorem fieldsOfEntries?_cons_of_hasField_eq_false {key : Node} (h : form.hasField key = false)
    (value : Node) (rest : List (Node × Node)) :
    Node.fieldsOfEntries? form ((key, value) :: rest) =
      if form.ignoresOthers && key.text?.isSome then Node.fieldsOfEntries? form rest else none := by
  rw [Node.fieldsOfEntries?]
  cases hkey : key.text? with
  | none => simp
  | some name =>
      have hname : name ∉ form.names := fun hname => by
        rw [hasField_eq_true_iff.2 ⟨name, hkey, hname⟩] at h
        cases h
      cases Node.fieldsOfEntries? form rest <;> simp [hname]

/-- **Where others are not ignored**, there is a field for every entry. -/
theorem fieldsOfEntries?_of_stray (hform : form.ignoresOthers = false)
    {entries : List (Node × Node)} (h : ∃ e ∈ entries, form.hasField e.1 = false) :
    Node.fieldsOfEntries? form entries = none := by
  induction entries with
  | nil => simp at h
  | cons entry rest ih =>
      obtain ⟨key, value⟩ := entry
      cases hfield : form.hasField key with
      | true =>
          obtain ⟨name, hkey, hname⟩ := hasField_eq_true_iff.1 hfield
          have hrest : ∃ e ∈ rest, form.hasField e.1 = false := by
            obtain ⟨e, he, hstray⟩ := h
            rcases List.mem_cons.1 he with rfl | hmem
            · rw [hfield] at hstray
              cases hstray
            · exact ⟨e, hmem, hstray⟩
          rw [fieldsOfEntries?_cons hkey hname, ih hrest]
          rfl
      | false =>
          rw [fieldsOfEntries?_cons_of_hasField_eq_false hfield, hform]
          rfl

/-- **Where others are ignored**, only the entries count for which there is a field, as long as all
keys are texts. -/
theorem fieldsOfEntries?_filter_hasField (hform : form.ignoresOthers = true)
    {entries : List (Node × Node)} (h : ∀ e ∈ entries, e.1.text?.isSome = true) :
    Node.fieldsOfEntries? form entries =
      Node.fieldsOfEntries? form (entries.filter fun e => form.hasField e.1) := by
  induction entries with
  | nil => rfl
  | cons entry rest ih =>
      obtain ⟨key, value⟩ := entry
      rw [List.forall_mem_cons] at h
      cases hfield : form.hasField key with
      | true =>
          obtain ⟨name, hkey, hname⟩ := hasField_eq_true_iff.1 hfield
          have hfilter : ((key, value) :: rest).filter (fun e => form.hasField e.1) =
              (key, value) :: rest.filter fun e => form.hasField e.1 :=
            List.filter_cons_of_pos hfield
          rw [hfilter, fieldsOfEntries?_cons hkey hname, fieldsOfEntries?_cons hkey hname, ih h.2]
      | false =>
          rw [List.filter_cons_of_neg (by simp [hfield]), ← ih h.2,
            fieldsOfEntries?_cons_of_hasField_eq_false hfield, hform, h.1]
          rfl

end

/-! ### Lengths -/

namespace DocumentLength

/-- A length that is written as a number of hops. -/
def hopsOfNode? (node : Node) : Option DocumentLength :=
  match node.resolved? with
  | some (.integer n) => (hops? n).map .exactly
  | _ => none

/-- A length that is written as a mapping with bounds. -/
def boundsOfNode? (node : Node) : Option DocumentLength :=
  node.entries?.bind fun entries =>
    (bounds? entries).map fun given =>
      .between (given.lookup .least).join (given.lookup .greatest).join

/-- A length that is written as a text. -/
def textOfNode? (node : Node) : Option DocumentLength :=
  match node.resolved? with
  | some (.text s) => some (.text s)
  | _ => none

/-- **A length is read in the first way that fits**, if it can be read at all. -/
theorem ofNode?_eq_or : ∀ node : Node,
    ofNode? node =
      if node.isReadable (depthLimit - elementDepth) then
        (hopsOfNode? node).or ((boundsOfNode? node).or (textOfNode? node))
      else none
  | .reference target => ofNode?_eq_or target
  | .selfReference => rfl
  | .sequence items => (ite_self _).symm
  | .mapping entries => by
      have hread : ofNode? (.mapping entries) =
          if Node.areEntriesReadable (depthLimit - elementDepth - 1) entries then
            boundsOfNode? (.mapping entries)
          else none := rfl
      have hhops : hopsOfNode? (.mapping entries) = none := rfl
      have htext : textOfNode? (.mapping entries) = none := rfl
      rw [hread, hhops, htext, Option.none_or, Option.or_none]
      rfl
  | .scalar s => by
      have hresolved : (Node.scalar s).resolved? = s.resolve? := rfl
      have hbounds : boundsOfNode? (.scalar s) = none := rfl
      simp only [ofNode?, Node.target?, Node.isReadable, hopsOfNode?, hbounds, textOfNode?,
        hresolved]
      cases s.resolve? with
      | none => rfl
      | some r => cases r <;> simp

/-! ### The keys of the bounds -/

/-- The name of a bound. -/
def Bound.name : Bound → String
  | .least => "min"
  | .greatest => "max"

/-- The number of a bound. -/
def Bound.number : Bound → Int
  | .least => 0
  | .greatest => 1

/-- **A bound is found under its name**, and under its number if that has neither a sign nor a
tag. -/
theorem bound?_eq_some_some_iff {key : Node} {bound : Bound} :
    bound? key = some (some bound) ↔
      key.resolved? = some (.text bound.name) ∨
        key.resolved? = some (.integer bound.number) ∧ bound?.isUnsigned key = true := by
  unfold bound?
  -- one case for each row of the table
  split <;> cases bound <;> simp_all [Bound.name, Bound.number]

end DocumentLength

end CypherQuery
