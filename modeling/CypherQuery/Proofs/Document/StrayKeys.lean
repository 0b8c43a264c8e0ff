/-
**Keys that a document should not have.**

A document has documented keys in six sorts of mappings: in the document itself, in its nodes and
relationships, in the lengths of relationships, in filters and in return items.  All but one of them
are records, which refuse stray entries, so that there is no document.  A length is no record, and
it ignores stray entries as long as they can be read at all.  So a mistyped bound of a length is no
error: the length has no such bound.

Main definitions:

* `CypherQuery.Survey.length`, `CypherQuery.Survey.element`, `CypherQuery.Survey.document` — the
  surveys of the parts of a document and of the whole;
* `CypherQuery.QueryDocument.strays`, `CypherQuery.QueryDocument.tidied` — the stray entries of a
  document, and the document without them.

Main results:

* `CypherQuery.Survey.describes_length` — **a length ignores stray entries**;
* `CypherQuery.Survey.describes_document` — a document is read by its survey;
* `CypherQuery.stray_entries` — **what stray entries do to a document**.
-/

import CypherQuery.Proofs.Document.Surveys

set_option autoImplicit false

namespace CypherQuery

open CypherQuery.Yaml

/-! ### Lengths -/

namespace DocumentLength

/-- Whether a key is that of a bound, by its name or by its number. -/
def isBound (key : Node) : Bool := (bound? key).any Option.isSome

/-- A node that stands for something can be read, unless it is a whole number that is too large. -/
theorem isReadable_of_resolved? (room : Nat) {r : Resolved} (hr : r ≠ .hugeInteger) :
    ∀ node : Node, node.resolved? = some r → node.isReadable room = true
  | .scalar s, h => by
      have hresolve : s.resolve? = some r := h
      simp only [Node.isReadable, hresolve]
  | .reference target, h => isReadable_of_resolved? room hr target h

/-- A key that can be one can be read. -/
theorem isReadable_of_bound? (room : Nat) {key : Node} {bound : Option Bound}
    (h : bound? key = some bound) : key.isReadable room = true := by
  cases hresolved : key.resolved? with
  | none => simp [bound?, hresolved] at h
  | some r =>
      refine isReadable_of_resolved? room ?_ key hresolved
      rintro rfl
      simp [bound?, hresolved] at h

/-- The entries of a length that are no bounds. -/
def strayEntries (entries : List (Node × Node)) : List StrayEntry :=
  (entries.filter fun e => !isBound e.1).map fun e => ⟨.length, e.1, e.2⟩

/-- The entries of a length that are bounds. -/
def boundEntries (entries : List (Node × Node)) : List (Node × Node) :=
  entries.filter fun e => isBound e.1

/-- **Stray entries that are ignored** make no difference. -/
theorem bounds?_of_ignored {entries : List (Node × Node)}
    (h : ∀ entry ∈ strayEntries entries, entry.isIgnored = true) :
    bounds? entries = bounds? (boundEntries entries) ∧
      Node.areEntriesReadable lengthRoom entries =
        Node.areEntriesReadable lengthRoom (boundEntries entries) := by
  induction entries with
  | nil => exact ⟨rfl, rfl⟩
  | cons entry rest ih =>
      obtain ⟨key, value⟩ := entry
      cases hbound : isBound key with
      | true =>
          have hstray : strayEntries ((key, value) :: rest) = strayEntries rest := by
            simp [strayEntries, hbound]
          rw [hstray] at h
          obtain ⟨hbounds, hreadable⟩ := ih h
          have hentries : boundEntries ((key, value) :: rest) =
              (key, value) :: boundEntries rest := by
            simp [boundEntries, hbound]
          rw [hentries, bounds?, bounds?, Node.areEntriesReadable, Node.areEntriesReadable, hbounds,
            hreadable]
          exact ⟨rfl, rfl⟩
      | false =>
          have hstray : strayEntries ((key, value) :: rest) =
              ⟨.length, key, value⟩ :: strayEntries rest := by
            simp [strayEntries, hbound]
          rw [hstray, List.forall_mem_cons] at h
          obtain ⟨hbounds, hreadable⟩ := ih h.2
          have hentries : boundEntries ((key, value) :: rest) = boundEntries rest := by
            simp [boundEntries, hbound]
          have hignored := h.1
          simp only [StrayEntry.isIgnored, Bool.and_eq_true, beq_iff_eq] at hignored
          obtain ⟨⟨-, hkey⟩, hvalue⟩ := hignored
          rw [hentries, bounds?, hkey, Node.areEntriesReadable, isReadable_of_bound? _ hkey, hvalue,
            hbounds, hreadable]
          refine ⟨?_, rfl⟩
          cases bounds? (boundEntries rest) <;> rfl

/-- An entry whose key can be none is refused. -/
theorem bounds?_of_mem {entries : List (Node × Node)} {entry : Node × Node}
    (hmem : entry ∈ entries) (hkey : bound? entry.1 = none) : bounds? entries = none := by
  induction entries with
  | nil => cases hmem
  | cons first rest ih =>
      rcases List.mem_cons.1 hmem with rfl | hrest
      · simp [bounds?, hkey]
      · rw [bounds?, ih hrest]
        cases bound? first.1 <;> rfl

/-- Entries cannot be read if one of their values cannot. -/
theorem areEntriesReadable_of_mem {room : Nat} {entries : List (Node × Node)}
    {entry : Node × Node} (hmem : entry ∈ entries)
    (hvalue : Node.isReadable room entry.2 = false) :
    Node.areEntriesReadable room entries = false := by
  induction entries with
  | nil => cases hmem
  | cons first rest ih =>
      rw [Node.areEntriesReadable]
      rcases List.mem_cons.1 hmem with rfl | hrest
      · simp [hvalue]
      · simp [ih hrest]

/-- **A stray entry that is not ignored** is refused. -/
theorem bounds?_of_not_ignored {entries : List (Node × Node)}
    (h : ∃ entry ∈ strayEntries entries, entry.isIgnored = false) :
    bounds? entries = none ∨ Node.areEntriesReadable lengthRoom entries = false := by
  obtain ⟨entry, hentry, hignored⟩ := h
  obtain ⟨⟨key, value⟩, he, rfl⟩ := List.mem_map.1 hentry
  obtain ⟨hmem, hbound⟩ := List.mem_filter.1 he
  cases hkey : bound? key with
  | none => exact .inl (bounds?_of_mem hmem hkey)
  | some bound =>
      have hnone : bound = none := by
        simpa [isBound, hkey] using hbound
      -- the key could be one, so that the value is at fault
      have hvalue : Node.isReadable lengthRoom value = false := by
        simpa [StrayEntry.isIgnored, hkey, hnone] using hignored
      exact .inr (areEntriesReadable_of_mem hmem hvalue)

end DocumentLength

namespace Survey

/-- **A length.** -/
def length : Survey where
  tidy node :=
    match node.entries? with
    | some entries => .mapping (DocumentLength.boundEntries entries)
    | none => node
  strays node := DocumentLength.strayEntries (node.entries?.getD [])

/-- **A length ignores stray entries**, as long as they can be read. -/
theorem describes_length : length.Describes DocumentLength.ofNode? := by
  intro node
  cases hentries : node.entries? with
  | none => simp [length, passes, hentries, DocumentLength.strayEntries]
  | some entries =>
      have htarget : node.target? = some (.mapping entries) := by
        rw [Node.entries?] at hentries
        split at hentries
        next found htarget =>
          cases hentries
          exact htarget
        next => cases hentries
      have htidy : length.tidy node = .mapping (DocumentLength.boundEntries entries) := by
        simp only [length, hentries]
      have hstrays : length.strays node = DocumentLength.strayEntries entries := by
        simp only [length, hentries, Option.getD_some]
      have hread : DocumentLength.ofNode? node = DocumentLength.ofNode? (.mapping entries) := by
        rw [DocumentLength.ofNode?, DocumentLength.ofNode?, htarget]
        rfl
      rw [hread, htidy, passes, hstrays]
      simp only [DocumentLength.ofNode?, Node.target?]
      cases hpasses : (DocumentLength.strayEntries entries).all StrayEntry.isIgnored with
      | true =>
          rw [List.all_eq_true] at hpasses
          obtain ⟨hbounds, hreadable⟩ := DocumentLength.bounds?_of_ignored hpasses
          rw [lengthRoom] at hreadable
          rw [hbounds, hreadable]
          rfl
      | false =>
          rw [List.all_eq_false] at hpasses
          obtain ⟨entry, hentry, hignored⟩ := hpasses
          rcases DocumentLength.bounds?_of_not_ignored
            ⟨entry, hentry, Bool.eq_false_iff.2 hignored⟩ with hbounds | hreadable
          · rw [hbounds]
            split <;> rfl
          · rw [lengthRoom] at hreadable
            rw [hreadable]
            rfl

theorem clears_length : length.Clears := by
  intro node
  cases hentries : node.entries? with
  | none => simp [length, hentries, DocumentLength.strayEntries]
  | some entries =>
      have htidy : (length.tidy node).entries? = some (DocumentLength.boundEntries entries) := by
        simp only [length, hentries]
        rfl
      simp only [length] at htidy ⊢
      rw [htidy, Option.getD_some, DocumentLength.strayEntries, DocumentLength.boundEntries,
        List.filter_filter]
      simp

/-! ### The parts of a document -/

/-- A node. -/
def node : Survey := record DocumentNode.form (fun _ => whole) .node

/-- A relationship. -/
def relationship : Survey :=
  record DocumentRelationship.form (fun name => if name = "length" then length else whole)
    .relationship

/-- A filter. -/
def filter : Survey := record DocumentFilter.form (fun _ => whole) .filter

/-- A return item. -/
def returnItem : Survey := record DocumentReturn.form (fun _ => whole) .returnItem

/-- What an element holds, given its sort. -/
def content (sort : String) : Survey :=
  if sort = "node" then node else if sort = "relationship" then relationship else whole

/-- An element. -/
def element : Survey where
  tidy n :=
    match n.target? with
    | some (.mapping [(.scalar sort, value)]) =>
        .mapping [(.scalar sort, (content sort.text).tidy value)]
    | _ => n
  strays n :=
    match n.target? with
    | some (.mapping [(.scalar sort, value)]) => (content sort.text).strays value
    | _ => []

/-- A document. -/
def document : Survey :=
  record QueryDocument.form
    (fun name =>
      if name = "pattern" then list element
      else if name = "where" then list filter
      else if name = "return" then list returnItem
      else whole)
    .document

variable {α β : Type}

theorem Describes.map {s : Survey} {read : Node → Option α} (h : s.Describes read) (f : α → β) :
    s.Describes fun n => (read n).map f := by
  intro n
  dsimp only
  rw [h n]
  cases s.passes n <;> rfl

theorem scalar?_whole (n : Node) :
    (whole.tidy n).scalar? = n.scalar? ∧ (n.scalar?.isSome = true → whole.passes n = true) :=
  ⟨rfl, fun _ => rfl⟩

theorem scalar?_length (n : Node) :
    (length.tidy n).scalar? = n.scalar? ∧ (n.scalar?.isSome = true → length.passes n = true) := by
  cases htarget : n.target? with
  | none => simp [length, passes, Node.entries?, Node.scalar?, htarget, DocumentLength.strayEntries]
  | some target =>
      cases target <;>
        simp [length, passes, Node.entries?, Node.scalar?, htarget, DocumentLength.strayEntries,
          Node.target?]

theorem describes_node : node.Describes DocumentNode.ofNode? :=
  describes_record (by decide) rfl (by decide)
    (readsFields_bind (readsFields_optional (describes_whole _) scalar?_whole) fun _ =>
      readsFields_bind (readsFields_getD _ (describes_whole _)) fun _ =>
        readsFields_bind (readsFields_getD _ (describes_whole _)) fun _ => readsFields_pure _)

theorem describes_relationship : relationship.Describes DocumentRelationship.ofNode? :=
  describes_record (by decide) rfl (by decide)
    (readsFields_bind (readsFields_optional (describes_whole _) scalar?_whole) fun _ =>
      readsFields_bind (readsFields_optional (describes_whole _) scalar?_whole) fun _ =>
        readsFields_bind (readsFields_getD _ (describes_whole _)) fun _ =>
          readsFields_bind (readsFields_optional describes_length scalar?_length) fun _ =>
            readsFields_bind (readsFields_getD _ (describes_whole _)) fun _ => readsFields_pure _)

theorem describes_filter : filter.Describes DocumentFilter.ofNode? :=
  describes_record (by decide) rfl (by decide)
    (readsFields_bind (readsFields_required (describes_whole _)) fun _ =>
      readsFields_bind (readsFields_required (describes_whole _)) fun _ =>
        readsFields_bind (readsFields_required (describes_whole _)) fun _ => readsFields_pure _)

theorem describes_returnItem : returnItem.Describes DocumentReturn.ofNode? :=
  describes_record (by decide) rfl (by decide)
    (readsFields_bind (readsFields_required (describes_whole _)) fun _ =>
      readsFields_bind (readsFields_optional (describes_whole _) scalar?_whole) fun _ =>
        readsFields_bind (readsFields_optional (describes_whole _) scalar?_whole) fun _ =>
          readsFields_pure _)

/-- In what is no mapping with a single scalar key nothing is stray. -/
theorem element_of_other {n : Node}
    (h : ∀ sort value, n.target? ≠ some (.mapping [(.scalar sort, value)])) :
    element.strays n = [] ∧ element.tidy n = n := by
  simp only [element, and_self]

/-- An element is read by its sort. -/
theorem describes_element : element.Describes DocumentElement.ofNode? := by
  intro n
  by_cases helement : ∃ sort value, n.target? = some (.mapping [(.scalar sort, value)])
  · obtain ⟨sort, value, htarget⟩ := helement
    have hpasses : element.passes n = (content sort.text).passes value := by
      simp only [passes, element, htarget]
    have htidy : element.tidy n = .mapping [(.scalar sort, (content sort.text).tidy value)] := by
      simp only [element, htarget]
    rw [hpasses, htidy]
    simp only [DocumentElement.ofNode?, htarget, content, Node.target?]
    by_cases hnode : sort.text = "node"
    · simp only [if_pos hnode]
      exact describes_node.map DocumentElement.node value
    · by_cases hrelationship : sort.text = "relationship"
      · simp only [if_neg hnode, if_pos hrelationship]
        exact describes_relationship.map DocumentElement.relationship value
      · simp only [if_neg hnode, if_neg hrelationship, ite_self]
  · obtain ⟨hstrays, htidy⟩ :=
      element_of_other fun sort value htarget => helement ⟨sort, value, htarget⟩
    rw [passes, hstrays, htidy]
    rfl

/-- **A document is read by its survey.** -/
theorem describes_document : document.Describes QueryDocument.ofNode? :=
  describes_record (by decide) rfl (by decide)
    (readsFields_bind (readsFields_getD _ (describes_whole _)) fun _ =>
      readsFields_bind (readsFields_getD _ (describes_whole _)) fun _ =>
        readsFields_bind (readsFields_required (describes_list describes_element)) fun _ =>
          readsFields_bind (readsFields_getD _ (describes_list describes_filter)) fun _ =>
            readsFields_bind (readsFields_getD _ (describes_list describes_returnItem)) fun _ =>
              readsFields_pure _)

theorem clears_content (sort : String) : (content sort).Clears := by
  rw [content]
  split
  · exact clears_record fun _ => clears_whole
  · split
    · refine clears_record fun name => ?_
      split
      · exact clears_length
      · exact clears_whole
    · exact clears_whole

theorem clears_element : element.Clears := by
  intro n
  by_cases helement : ∃ sort value, n.target? = some (.mapping [(.scalar sort, value)])
  · obtain ⟨sort, value, htarget⟩ := helement
    have htidy : element.tidy n = .mapping [(.scalar sort, (content sort.text).tidy value)] := by
      simp only [element, htarget]
    rw [htidy]
    exact clears_content sort.text value
  · obtain ⟨hstrays, htidy⟩ :=
      element_of_other fun sort value htarget => helement ⟨sort, value, htarget⟩
    rw [htidy, hstrays]

theorem clears_document : document.Clears := by
  refine clears_record fun name => ?_
  split
  · exact clears_list clears_element
  · split
    · exact clears_list (clears_record fun _ => clears_whole)
    · split
      · exact clears_list (clears_record fun _ => clears_whole)
      · exact clears_whole

end Survey

/-! ### Documents -/

namespace QueryDocument

/-- **The stray entries of a document.** -/
def strays (node : Node) : List StrayEntry := Survey.document.strays node

/-- **The document without its stray entries.** -/
def tidied (node : Node) : Node := Survey.document.tidy node

end QueryDocument

/-- **What stray entries do to a document** that could be read without them: with a stray entry
anywhere but in a length there is no document.  A stray entry in a length does no harm if it can be
read, and if there are no others, then the document is the same as without them. -/
theorem stray_entries {node : Node} {doc : QueryDocument}
    (h : QueryDocument.ofNode? (QueryDocument.tidied node) = some doc) :
    QueryDocument.strays (QueryDocument.tidied node) = [] ∧
      ((∃ entry ∈ QueryDocument.strays node, entry.place ≠ .length) →
        QueryDocument.ofNode? node = none) ∧
      (QueryDocument.ofNode? node = none ↔
        ∃ entry ∈ QueryDocument.strays node, entry.isIgnored = false) ∧
      ((∀ entry ∈ QueryDocument.strays node, entry.isIgnored = true) →
        QueryDocument.ofNode? node = some doc) := by
  have hread := Survey.describes_document node
  have hrefused : ∀ entry ∈ QueryDocument.strays node, entry.isIgnored = false →
      QueryDocument.ofNode? node = none := by
    intro entry hentry hignored
    have hpasses : Survey.document.passes node = false :=
      List.all_eq_false.2 ⟨entry, hentry, Bool.eq_false_iff.1 hignored⟩
    rw [hread, hpasses]
    rfl
  have hignored : (∀ entry ∈ QueryDocument.strays node, entry.isIgnored = true) →
      QueryDocument.ofNode? node = some doc := by
    intro hall
    have hpasses : Survey.document.passes node = true := List.all_eq_true.2 hall
    rw [hread, hpasses]
    exact h
  refine ⟨Survey.clears_document node, ?_, ⟨fun hnone => ?_, ?_⟩, hignored⟩
  · rintro ⟨entry, hentry, hplace⟩
    exact hrefused entry hentry (by simp [StrayEntry.isIgnored, hplace])
  · cases hall : Survey.document.passes node with
    | false =>
        obtain ⟨entry, hentry, hnot⟩ := List.all_eq_false.1 hall
        exact ⟨entry, hentry, Bool.eq_false_iff.2 hnot⟩
    | true =>
        rw [hignored (List.all_eq_true.1 hall)] at hnone
        cases hnone
  · rintro ⟨entry, hentry, hnot⟩
    exact hrefused entry hentry hnot

/-- A plain scalar without a tag. -/
def plainScalar (text : String) : Node := .scalar ⟨text, true, none⟩

/-- A document with one relationship and no other entries than those in its length and in itself. -/
def oneHop (length others : List (Node × Node)) : Node :=
  let node : Node := .mapping [(plainScalar "node", .mapping [])]
  .mapping ((plainScalar "pattern", .sequence [node,
    .mapping [(plainScalar "relationship", .mapping [(plainScalar "length", .mapping length)])],
    node]) :: others)

/-- The document without bounds. -/
def oneHopDocument : QueryDocument :=
  ⟨false, false, [.node ⟨none, [], []⟩,
    .relationship ⟨none, none, .right, some (.between none none), []⟩,
    .node ⟨none, [], []⟩], [], []⟩

/-- A mistyped bound is ignored, and an entry of the document itself is refused. -/
theorem stray_entries_of_oneHop :
    let mistyped : Node := oneHop [(plainScalar "mim", plainScalar "5")] []
    let stray : Node := oneHop [] [(plainScalar "limit", plainScalar "5")]
    QueryDocument.ofNode? (QueryDocument.tidied mistyped) = some oneHopDocument ∧
      QueryDocument.ofNode? (QueryDocument.tidied stray) = some oneHopDocument ∧
      QueryDocument.ofNode? mistyped = some oneHopDocument ∧
      QueryDocument.ofNode? stray = none := by
  intro mistyped stray
  have hmistyped :
      QueryDocument.ofNode? (QueryDocument.tidied mistyped) = some oneHopDocument := rfl
  have hstray : QueryDocument.ofNode? (QueryDocument.tidied stray) = some oneHopDocument := rfl
  refine ⟨hmistyped, hstray, (stray_entries hmistyped).2.2.2 ?_, (stray_entries hstray).2.1 ?_⟩
  · intro entry hentry
    rw [List.mem_singleton.1 (hentry : entry ∈ [⟨.length, plainScalar "mim", plainScalar "5"⟩])]
    decide
  · exact ⟨⟨.document, plainScalar "limit", plainScalar "5"⟩, List.mem_singleton_self _, by decide⟩

/-- **A mistyped bound of a length is no error**: the document has a stray entry, and is read as if
it were not there. -/
theorem not_refused_oneHop :
    let mistyped : Node := oneHop [(plainScalar "mim", plainScalar "5")] []
    ¬ (QueryDocument.ofNode? (QueryDocument.tidied mistyped) = some oneHopDocument →
      QueryDocument.strays mistyped ≠ [] → QueryDocument.ofNode? mistyped = none) := by
  intro mistyped hrefused
  have hread : QueryDocument.ofNode? mistyped = some oneHopDocument := rfl
  rw [hrefused rfl nofun] at hread
  cases hread

end CypherQuery
