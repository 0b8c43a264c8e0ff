/-
**Surveys: what is stray in a part of a document.**

The mappings of a document have documented keys.  An entry with another key is stray.  A survey of a
part of a document says which entries are stray in it, and what is left without them.  A reader of
that part is described by its survey if it refuses exactly the stray entries that are not ignored,
and reads what is left otherwise.  Surveys are put together as the readers are: of lists of parts,
and of records with a survey for each field.

Main definitions:

* `CypherQuery.StrayEntry` — an entry with a key that is not documented;
* `CypherQuery.StrayEntry.isIgnored` — **whether it is ignored**;
* `CypherQuery.Survey`, `CypherQuery.Survey.Describes` — what is stray in a part of a document, and
  how it is read then;
* `CypherQuery.Survey.list`, `CypherQuery.Survey.record` — the surveys of lists and of records.

Main results:

* `CypherQuery.Survey.describes_list` — a list refuses what its items refuse;
* `CypherQuery.Survey.describes_record` — **a record refuses stray entries**;
* `CypherQuery.Survey.clears_list`, `CypherQuery.Survey.clears_record` — nothing stray is left.
-/

import CypherQuery.Proofs.Document.Decoding

set_option autoImplicit false

namespace CypherQuery

open CypherQuery.Yaml

/-! ### Stray entries -/

/-- The mappings of a document that have documented keys. -/
inductive Place where
  /-- The document itself. -/
  | document
  /-- A node. -/
  | node
  /-- A relationship. -/
  | relationship
  /-- The length of a relationship. -/
  | length
  /-- A filter. -/
  | filter
  /-- A return item. -/
  | returnItem
  deriving DecidableEq, Repr

/-- An entry with a key that is not documented. -/
structure StrayEntry where
  /-- The mapping in which it stands. -/
  place : Place
  /-- Its key. -/
  key : Node
  /-- Its value. -/
  value : Node
  deriving Repr

/-- How many collections may be nested in the values of a length. -/
def lengthRoom : Nat := depthLimit - elementDepth - 1

/-- **Whether a stray entry is ignored**: it stands in a length, its key is a text or a number that
could be a key, and its value can be read. -/
def StrayEntry.isIgnored (entry : StrayEntry) : Bool :=
  entry.place == .length && DocumentLength.bound? entry.key == some none &&
    Node.isReadable lengthRoom entry.value

/-! ### Surveys -/

/-- What is stray in a part of a document, and what is left without it. -/
structure Survey where
  /-- The part without stray entries. -/
  tidy : Node → Node
  /-- The stray entries. -/
  strays : Node → List StrayEntry

namespace Survey

variable {α β : Type}

/-- Whether all that is stray is ignored. -/
def passes (s : Survey) (node : Node) : Bool := (s.strays node).all StrayEntry.isIgnored

/-- **A reader refuses what is stray**, unless it is ignored, and reads the rest. -/
def Describes (s : Survey) (read : Node → Option α) : Prop :=
  ∀ node, read node = if s.passes node then read (s.tidy node) else none

/-- Nothing stray is left. -/
def Clears (s : Survey) : Prop := ∀ node, s.strays (s.tidy node) = []

/-! ### Parts without stray entries, and lists -/

/-- A part in which nothing is stray, such as a text or a value. -/
def whole : Survey := ⟨id, fun _ => []⟩

theorem describes_whole (read : Node → Option α) : whole.Describes read := fun _ => rfl

theorem clears_whole : whole.Clears := fun _ => rfl

/-- A list of parts. -/
def list (s : Survey) : Survey where
  tidy node :=
    match node.items? with
    | some items => .sequence (items.map s.tidy)
    | none => node
  strays node := (node.items?.getD []).flatMap s.strays

theorem mapM_of_describes {s : Survey} {read : Node → Option α} (h : s.Describes read)
    (items : List Node) :
    items.mapM read = if items.all s.passes then (items.map s.tidy).mapM read else none := by
  induction items with
  | nil => rfl
  | cons item rest ih =>
      rw [List.mapM_cons, List.map_cons, List.mapM_cons, List.all_cons, h item, ih]
      cases s.passes item with
      | false => rfl
      | true =>
          cases rest.all s.passes with
          | true => rfl
          | false =>
              -- the first item may be refused as well
              cases read (s.tidy item) <;> rfl

/-- A list refuses what its items refuse. -/
theorem describes_list {s : Survey} {read : Node → Option α} (h : s.Describes read) :
    s.list.Describes (Node.list? read) := by
  intro node
  cases hitems : node.items? with
  | none => simp [list, passes, hitems]
  | some items =>
      have hpasses : s.list.passes node = items.all s.passes := by
        simp only [passes, list, hitems, Option.getD_some, List.all_flatMap]
        rfl
      have htidy : (s.list.tidy node).items? = some (items.map s.tidy) := by
        simp only [list, hitems]
        rfl
      rw [hpasses, Node.list?, Node.list?, hitems, htidy]
      exact mapM_of_describes h items

theorem clears_list {s : Survey} (h : s.Clears) : s.list.Clears := by
  intro node
  cases hitems : node.items? with
  | none => simp [list, hitems]
  | some items =>
      have htidy : (s.list.tidy node).items? = some (items.map s.tidy) := by
        simp only [list, hitems]
        rfl
      change ((s.list.tidy node).items?.getD []).flatMap s.strays = []
      rw [htidy, Option.getD_some, List.flatMap_map, List.flatMap_eq_nil_iff]
      exact fun item _ => h item

end Survey

/-! ### Fields -/

section

variable (inner : String → Survey)

/-- The given fields without stray entries. -/
def tidyFields (fields : Fields) : Fields := fields.map fun f => (f.1, (inner f.1).tidy f.2)

theorem lookup_tidyFields (fields : Fields) (name : String) :
    (tidyFields inner fields).lookup name = (fields.lookup name).map (inner name).tidy := by
  induction fields with
  | nil => rfl
  | cons f rest ih =>
      rw [tidyFields, List.map_cons, List.lookup_cons, List.lookup_cons]
      cases heq : name == f.1 with
      | false => exact ih
      | true =>
          rw [eq_of_beq heq]
          rfl

/-- What is stray in the fields with certain names is ignored. -/
def fieldsPass (names : List String) (fields : Fields) : Bool :=
  names.all fun name => (fields.lookup name).all (inner name).passes

variable {α β : Type}

/-- **A reader of fields refuses what is stray** in the fields with certain names. -/
def ReadsFields (names : List String) (read : Fields → Option α) : Prop :=
  ∀ fields, read fields =
    if fieldsPass inner names fields then read (tidyFields inner fields) else none

variable {inner}

theorem readsFields_pure (a : α) : ReadsFields inner [] fun _ => some a := fun _ => rfl

/-- A reader of one field, and with its result a reader of others. -/
theorem readsFields_bind {name : String} {names : List String} {read : Fields → Option α}
    {next : α → Fields → Option β} (h : ReadsFields inner [name] read)
    (hnext : ∀ a, ReadsFields inner names (next a)) :
    ReadsFields inner (name :: names) fun fields => read fields >>= fun a => next a fields := by
  intro fields
  have hsplit : fieldsPass inner (name :: names) fields =
      (fieldsPass inner [name] fields && fieldsPass inner names fields) := by
    simp [fieldsPass]
  dsimp only
  rw [hsplit, h fields]
  cases fieldsPass inner [name] fields with
  | false => rfl
  | true =>
      simp only [if_true, Bool.true_and]
      cases hread : read (tidyFields inner fields) with
      | none => simp
      | some a => exact hnext a fields

theorem readsFields_required {name : String} {read : Node → Option α}
    (h : (inner name).Describes read) :
    ReadsFields inner [name] fun fields => fields.required? name read := by
  intro fields
  simp only [Fields.required?, fieldsPass, List.all_cons, List.all_nil, Bool.and_true,
    lookup_tidyFields]
  cases fields.lookup name with
  | none => rfl
  | some node => exact h node

theorem readsFields_getD {name : String} {read : Node → Option α} (standard : α)
    (h : (inner name).Describes read) :
    ReadsFields inner [name] fun fields => fields.getD? name read standard := by
  intro fields
  simp only [Fields.getD?, fieldsPass, List.all_cons, List.all_nil, Bool.and_true,
    lookup_tidyFields]
  cases fields.lookup name with
  | none => rfl
  | some node => exact h node

/-- A field that may be absent; a scalar has no stray entries. -/
theorem readsFields_optional {name : String} {read : Node → Option α}
    (h : (inner name).Describes read)
    (hscalar : ∀ node, ((inner name).tidy node).scalar? = node.scalar? ∧
      (node.scalar?.isSome = true → (inner name).passes node = true)) :
    ReadsFields inner [name] fun fields => fields.optional? name read := by
  refine readsFields_getD none fun node => ?_
  obtain ⟨htidy, hpasses⟩ := hscalar node
  rw [Node.optional?, Node.optional?, htidy, h node]
  cases hnode : node.scalar? with
  | none => cases (inner name).passes node <;> rfl
  | some s =>
      rw [hpasses (by rw [hnode]; rfl)]
      rfl

end

/-! ### Records -/

/-- The field for a key. -/
def Yaml.Node.fieldName (key : Node) : String := key.text?.getD ""

section

variable (form : RecordForm) (inner : String → Survey)

/-- What is left of an entry. -/
def tidyEntry (entry : Node × Node) : Node × Node :=
  (entry.1, (inner entry.1.fieldName).tidy entry.2)

/-- What is left of the items of a record that is written as a sequence. -/
def tidyItems : List String → List Node → List Node
  | name :: names, item :: items => (inner name).tidy item :: tidyItems names items
  | _, items => items

/-- What is left of the entries of a record that is written as a mapping. -/
def tidyEntries (entries : List (Node × Node)) : List (Node × Node) :=
  (entries.filter fun e => form.hasField e.1).map (tidyEntry inner)

/-- What is stray in such entries. -/
def straysOfEntries (place : Place) (entries : List (Node × Node)) : List StrayEntry :=
  entries.flatMap fun e =>
    if form.hasField e.1 then (inner e.1.fieldName).strays e.2 else [⟨place, e.1, e.2⟩]

/-- What is stray in the items of a record that is written as a sequence. -/
def straysOfItems (items : List Node) : List StrayEntry :=
  (form.names.zip items).flatMap fun f => (inner f.1).strays f.2

/-- **A record**, with the surveys of its fields. -/
def Survey.record (place : Place) : Survey where
  tidy node :=
    match node.target? with
    | some (.mapping entries) => .mapping (tidyEntries form inner entries)
    | some (.sequence items) => .sequence (tidyItems inner form.names items)
    | _ => node
  strays node :=
    match node.target? with
    | some (.mapping entries) => straysOfEntries form inner place entries
    | some (.sequence items) => straysOfItems form inner items
    | _ => []

/-- The fields of a record, those that are left of them, and whether what is stray is ignored. -/
inductive FieldsLeft : Option Fields → Option Fields → Bool → Prop where
  /-- A stray entry is refused, so that there are no fields. -/
  | refused (left : Option Fields) : FieldsLeft none left false
  /-- There are no fields, with stray entries or without. -/
  | absent (passes : Bool) : FieldsLeft none none passes
  /-- There are fields, and what is stray is in them. -/
  | given (fields : Fields) :
      FieldsLeft (some fields) (some (tidyFields inner fields)) (fieldsPass inner form.names fields)

/-- The fields of a record: they have names of the record, and each has its own. -/
def IsFieldsOf (fields : Fields) : Prop :=
  ∀ f ∈ fields, f.1 ∈ form.names ∧ fields.lookup f.1 = some f.2

variable {form} {inner}

/-- The fields of entries without stray ones. -/
theorem fieldsOfEntries?_map_tidyEntry {entries : List (Node × Node)}
    (h : ∀ e ∈ entries, form.hasField e.1 = true) :
    Node.fieldsOfEntries? form (entries.map (tidyEntry inner)) =
      (Node.fieldsOfEntries? form entries).map (tidyFields inner) := by
  induction entries with
  | nil => rfl
  | cons entry rest ih =>
      obtain ⟨key, value⟩ := entry
      rw [List.forall_mem_cons] at h
      obtain ⟨name, hkey, hname⟩ := hasField_eq_true_iff.1 h.1
      have hentry : tidyEntry inner (key, value) = (key, (inner name).tidy value) := by
        simp [tidyEntry, Yaml.Node.fieldName, hkey]
      rw [List.map_cons, hentry, fieldsOfEntries?_cons hkey hname, fieldsOfEntries?_cons hkey hname,
        ih h.2]
      cases Node.fieldsOfEntries? form rest with
      | none => rfl
      | some fields =>
          simp only [Option.map_some, Option.bind_some, lookup_tidyFields, Option.isSome_map]
          split <;> rfl

variable (inner) in
/-- The fields of entries are those of a record, and what is stray in them is what is stray in the
entries. -/
theorem isFieldsOf_of_entries {entries : List (Node × Node)} : ∀ {fields : Fields},
    (∀ e ∈ entries, form.hasField e.1 = true) → Node.fieldsOfEntries? form entries = some fields →
    IsFieldsOf form fields ∧
      fields.all (fun f => (inner f.1).passes f.2) =
        entries.all fun e => (inner e.1.fieldName).passes e.2 := by
  induction entries with
  | nil =>
      intro fields _ hfields
      cases hfields
      exact ⟨nofun, rfl⟩
  | cons entry rest ih =>
      intro fields h hfields
      obtain ⟨key, value⟩ := entry
      rw [List.forall_mem_cons] at h
      obtain ⟨name, hkey, hname⟩ := hasField_eq_true_iff.1 h.1
      rw [fieldsOfEntries?_cons hkey hname, Option.bind_eq_some_iff] at hfields
      obtain ⟨others, hothers, hfields⟩ := hfields
      obtain ⟨hrest, hpasses⟩ := ih h.2 hothers
      cases hlookup : others.lookup name with
      | some node =>
          rw [hlookup] at hfields
          cases hfields
      | none =>
          rw [hlookup] at hfields
          cases hfields
          refine ⟨?_, by simp [hpasses, Yaml.Node.fieldName, hkey]⟩
          rw [IsFieldsOf, List.forall_mem_cons]
          refine ⟨⟨hname, by simp⟩, fun f hf => ⟨(hrest f hf).1, ?_⟩⟩
          -- no other field has the name of the first one
          have hne : (f.1 == name) = false := by
            rw [beq_eq_false_iff_ne]
            rintro rfl
            rw [(hrest f hf).2] at hlookup
            cases hlookup
          rw [List.lookup_cons, hne]
          exact (hrest f hf).2

variable (inner) in
theorem zip_tidyItems (names : List String) : ∀ items : List Node,
    (tidyItems inner names items).length = items.length ∧
      names.zip (tidyItems inner names items) = tidyFields inner (names.zip items) := by
  induction names with
  | nil => exact fun items => ⟨rfl, by simp [tidyFields]⟩
  | cons name names ih =>
      intro items
      cases items with
      | nil => exact ⟨rfl, rfl⟩
      | cons item items =>
          obtain ⟨hlength, hzip⟩ := ih items
          rw [tidyItems, List.length_cons, hlength, List.zip_cons_cons, hzip]
          exact ⟨rfl, rfl⟩

theorem lookup_of_mem_zip {names : List String} (hnames : names.Nodup) : ∀ {items : List Node}
    {f : String × Node}, f ∈ names.zip items → (names.zip items).lookup f.1 = some f.2 := by
  induction names with
  | nil => intro items f hf; cases hf
  | cons name names ih =>
      intro items f hf
      rw [List.nodup_cons] at hnames
      cases items with
      | nil => cases hf
      | cons item items =>
          rw [List.zip_cons_cons, List.mem_cons] at hf
          rw [List.zip_cons_cons]
          rcases hf with rfl | hmem
          · simp
          · have hne : (f.1 == name) = false := by
              rw [beq_eq_false_iff_ne]
              rintro rfl
              exact hnames.1 (List.of_mem_zip hmem).1
            rw [List.lookup_cons, hne]
            exact ih hnames.2 hmem

/-- The given fields are those in which something can be stray. -/
theorem all_passes_eq_fieldsPass {fields : Fields} (h : IsFieldsOf form fields) :
    fields.all (fun f => (inner f.1).passes f.2) = fieldsPass inner form.names fields := by
  rw [Bool.eq_iff_iff, List.all_eq_true, fieldsPass, List.all_eq_true]
  constructor
  · intro hall name _
    cases hlookup : fields.lookup name with
    | none => rfl
    | some node =>
        obtain ⟨before, after, rfl, -⟩ := List.lookup_eq_some_iff.1 hlookup
        exact hall (name, node) (List.mem_append_right _ List.mem_cons_self)
  · intro hall f hf
    obtain ⟨hname, hlookup⟩ := h f hf
    have hpasses := hall f.1 hname
    rw [hlookup] at hpasses
    exact hpasses

variable {place : Place}

/-- A mapping with a stray entry has no fields; without one they are those of its entries. -/
theorem fieldsLeft_entries (hplace : place ≠ .length) (hform : form.ignoresOthers = false)
    (entries : List (Node × Node)) :
    FieldsLeft form inner (Node.fieldsOfEntries? form entries)
      (Node.fieldsOfEntries? form (tidyEntries form inner entries))
      ((straysOfEntries form inner place entries).all StrayEntry.isIgnored) := by
  by_cases hstray : ∃ e ∈ entries, form.hasField e.1 = false
  · have hrefused :
        (straysOfEntries form inner place entries).all StrayEntry.isIgnored = false := by
      obtain ⟨e, he, hfield⟩ := hstray
      rw [List.all_eq_false]
      refine ⟨⟨place, e.1, e.2⟩, ?_, by simp [StrayEntry.isIgnored, hplace]⟩
      exact List.mem_flatMap.2 ⟨e, he, by simp [hfield]⟩
    rw [fieldsOfEntries?_of_stray hform hstray, hrefused]
    exact .refused _
  · have hall : ∀ e ∈ entries, form.hasField e.1 = true := fun e he =>
      Bool.of_not_eq_false fun hfield => hstray ⟨e, he, hfield⟩
    rw [tidyEntries, List.filter_eq_self.2 hall, fieldsOfEntries?_map_tidyEntry hall]
    cases hfields : Node.fieldsOfEntries? form entries with
    | none => exact .absent _
    | some fields =>
        obtain ⟨hrecord, hpasses⟩ := isFieldsOf_of_entries inner hall hfields
        have hstrays : (straysOfEntries form inner place entries).all StrayEntry.isIgnored =
            fieldsPass inner form.names fields := by
          rw [← all_passes_eq_fieldsPass hrecord, hpasses, straysOfEntries, List.all_flatMap,
            Bool.eq_iff_iff, List.all_eq_true, List.all_eq_true]
          refine forall₂_congr fun e he => ?_
          rw [if_pos (hall e he)]
          exact Iff.rfl
        rw [hstrays]
        exact .given fields

/-- A sequence of the right length has the fields of a record. -/
theorem fieldsLeft_items (hnames : form.names.Nodup) (items : List Node) :
    FieldsLeft form inner (Node.fieldsOfItems? form items)
      (Node.fieldsOfItems? form (tidyItems inner form.names items))
      ((straysOfItems form inner items).all StrayEntry.isIgnored) := by
  obtain ⟨hlength, hzip⟩ := zip_tidyItems inner form.names items
  rw [Node.fieldsOfItems?, Node.fieldsOfItems?, hlength, hzip]
  by_cases hcount : form.leastItems ≤ items.length ∧ items.length ≤ form.names.length
  · have hrecord : IsFieldsOf form (form.names.zip items) := fun f hf =>
      ⟨(List.of_mem_zip hf).1, lookup_of_mem_zip hnames hf⟩
    have hstrays : (straysOfItems form inner items).all StrayEntry.isIgnored =
        fieldsPass inner form.names (form.names.zip items) := by
      rw [← all_passes_eq_fieldsPass hrecord, straysOfItems, List.all_flatMap]
      rfl
    rw [if_pos hcount, if_pos hcount, hstrays]
    exact .given _
  · rw [if_neg hcount, if_neg hcount]
    exact .absent _

/-- A reader of the fields refuses what they refuse. -/
theorem FieldsLeft.bind {α : Type} {given left : Option Fields} {passes : Bool}
    (h : FieldsLeft form inner given left passes) {read : Fields → Option α}
    (hread : ReadsFields inner form.names read) :
    given >>= read = if passes then left >>= read else none := by
  cases h with
  | refused => rfl
  | absent => cases passes <;> rfl
  | given fields => exact hread fields

namespace Survey

theorem fieldsLeft_record (hplace : place ≠ .length) (hform : form.ignoresOthers = false)
    (hnames : form.names.Nodup) (node : Node) :
    FieldsLeft form inner (node.fields? form) (((record form inner place).tidy node).fields? form)
      ((record form inner place).passes node) := by
  rw [passes, Node.fields?, Node.fields?]
  cases htarget : node.target? with
  | none =>
      simp only [record, htarget]
      exact .absent _
  | some target =>
      cases target with
      | mapping entries =>
          simp only [record, htarget, Node.target?]
          exact fieldsLeft_entries hplace hform entries
      | sequence items =>
          simp only [record, htarget, Node.target?]
          exact fieldsLeft_items hnames items
      | scalar s =>
          simp only [record, htarget]
          exact .absent _
      | reference t =>
          simp only [record, htarget]
          exact .absent _
      | selfReference =>
          simp only [record, htarget]
          exact .absent _

/-- **A record refuses stray entries**, and what is stray in its fields. -/
theorem describes_record {α : Type} (hplace : place ≠ .length) (hform : form.ignoresOthers = false)
    (hnames : form.names.Nodup) {read : Fields → Option α}
    (h : ReadsFields inner form.names read) :
    (record form inner place).Describes fun node => node.fields? form >>= read :=
  fun node => (fieldsLeft_record hplace hform hnames node).bind h

/-- Nothing stray is left of a record if nothing is left of its fields. -/
theorem clears_record (h : ∀ name, (inner name).Clears) : (record form inner place).Clears := by
  have hentries : ∀ entries : List (Node × Node),
      straysOfEntries form inner place (tidyEntries form inner entries) = [] := by
    intro entries
    simp only [straysOfEntries, tidyEntries, List.flatMap_eq_nil_iff, List.forall_mem_map,
      List.mem_filter]
    rintro e ⟨-, hfield⟩
    rw [tidyEntry, if_pos hfield]
    exact h _ _
  have hitems : ∀ items : List Node,
      straysOfItems form inner (tidyItems inner form.names items) = [] := by
    intro items
    rw [straysOfItems, (zip_tidyItems inner form.names items).2, tidyFields]
    simp only [List.flatMap_eq_nil_iff, List.forall_mem_map]
    exact fun f _ => h _ _
  intro node
  cases htarget : node.target? with
  | none => simp only [record, htarget]
  | some target =>
      cases target with
      | mapping entries => simpa only [record, htarget, Node.target?] using hentries entries
      | sequence items => simpa only [record, htarget, Node.target?] using hitems items
      | scalar s => simp only [record, htarget]
      | reference t => simp only [record, htarget]
      | selfReference => simp only [record, htarget]

end Survey

end

end CypherQuery
