/-
**The first defect of a query document.**

A document can be translated if its pattern alternates between nodes and relationships and ends as
it starts, if all lengths mean something, and if filters and return items refer to keys that there
are.  Everything else is a defect.  The defects of a document have an order: those of the elements
by position, that of the end of the pattern, those of the filters, those of the return items.  An
element at the wrong place is that and nothing else, whatever its length says.

The translation looks at two elements at a time and stops at the first thing that is wrong.  It
reports the first of the defects, and if there are none it succeeds.

Main definitions:

* `CypherQuery.Reports` — a computation that fails with the first of some errors;
* `CypherQuery.QueryDocument.IsWellShaped` — **documents without a defect**;
* `CypherQuery.QueryDocument.defects` — **the defects of a document, in order**.

Main results:

* `CypherQuery.Reports.bind`, `CypherQuery.reports_mapM` — one computation after the other;
* `CypherQuery.QueryDocument.reports_hops` — the hops of a pattern;
* `CypherQuery.QueryDocument.toQuery_iff` — **documents are accepted exactly if they are well
  shaped, and otherwise the first defect is reported**.
-/

import CypherQuery.Proofs.Document.Scope

set_option autoImplicit false

namespace CypherQuery

/-! ### Computations that report the first of several errors -/

/-- **A computation that fails with the first of some errors**, and succeeds if there are none. -/
def Reports {ε α : Type} (errors : List ε) (x : Except ε α) : Prop :=
  ∀ e, x = .error e ↔ errors.head? = some e

section

variable {ε α β : Type}

theorem reports_ok (a : α) : Reports ([] : List ε) (.ok a : Except ε α) := by
  intro e
  simp

theorem reports_error (e : ε) (errors : List ε) :
    Reports (e :: errors) (.error e : Except ε α) := by
  intro e'
  simp

theorem Reports.exists_ok_iff {errors : List ε} {x : Except ε α} (h : Reports errors x) :
    (∃ a, x = .ok a) ↔ errors = [] := by
  cases x with
  | ok a =>
      have hnone : errors.head? = none :=
        Option.eq_none_iff_forall_ne_some.2 fun e he => nomatch (h e).2 he
      exact iff_of_true ⟨a, rfl⟩ (List.head?_eq_none_iff.1 hnone)
  | error e =>
      refine iff_of_false nofun ?_
      rintro rfl
      cases (h e).1 rfl

/-- One computation after the other reports the errors of the first one first. -/
theorem Reports.bind {errors errors' : List ε} {x : Except ε α} {f : α → Except ε β}
    (h : Reports errors x) (h' : ∀ a, Reports errors' (f a)) :
    Reports (errors ++ errors') (x >>= f) := by
  cases x with
  | ok a =>
      rw [h.exists_ok_iff.1 ⟨a, rfl⟩, List.nil_append]
      exact h' a
  | error e =>
      intro e'
      rw [List.head?_append, (h e).1 rfl, Option.some_or]
      constructor <;> rintro ⟨⟩ <;> rfl

theorem Reports.map {errors : List ε} {x : Except ε α} (h : Reports errors x) (f : α → β) :
    Reports errors (x.map f) := by
  cases x with
  | ok a =>
      rw [h.exists_ok_iff.1 ⟨a, rfl⟩]
      exact reports_ok (f a)
  | error e =>
      intro e'
      rw [(h e).1 rfl]
      constructor <;> rintro ⟨⟩ <;> rfl

theorem reports_mapM {step : α → Except ε β} {error? : α → Option ε}
    (h : ∀ a, Reports (error? a).toList (step a)) (as : List α) :
    Reports (as.filterMap error?) (as.mapM step) := by
  induction as with
  | nil => exact reports_ok []
  | cons a rest ih =>
      have hlist : (a :: rest).filterMap error? =
          (error? a).toList ++ (rest.filterMap error? ++ []) := by
        rw [List.append_nil, List.filterMap_cons]
        cases error? a <;> rfl
      rw [hlist, List.mapM_cons]
      exact (h a).bind fun b => ih.bind fun bs => reports_ok (b :: bs)

end

/-- What is selected from numbered items without a look at the numbers. -/
theorem filterMap_zipIdx_fst {α β : Type} (f : α → Option β) (as : List α) (first : Nat) :
    ((as.zipIdx first).filterMap fun entry => f entry.1) = as.filterMap f := by
  have hfst := List.filterMap_map (l := as.zipIdx first) (f := Prod.fst) (g := f)
  rw [List.zipIdx_map_fst] at hfst
  exact hfst.symm

theorem Logged.result_bind {ε α β : Type} (x : Logged ε α) (f : α → Logged ε β) :
    (x >>= f).result = x.result >>= fun a => (f a).result := by
  change (Logged.bind x f).result = _
  cases h : x.result <;> simp only [Logged.bind, h] <;> rfl

/-! ### Documents without a defect -/

/-- The sort that the element at an index must have. -/
def expectedSort (index : Nat) : ElementSort := if index % 2 = 0 then .node else .relationship

/-- Whether a length means something: a text has to be a star with blanks around it, and the least
number of hops must not exceed the greatest. -/
def DocumentLength.IsUsable : DocumentLength → Prop
  | .exactly _ => True
  | .between least greatest => ∀ l ∈ least, ∀ g ∈ greatest, l ≤ g
  | .text s => Blank.trim s = "*"

/-- **Documents without a defect.** -/
structure QueryDocument.IsWellShaped (doc : QueryDocument) : Prop where
  /-- The pattern has an element. -/
  nonempty : doc.elements ≠ []
  /-- The number of elements is odd. -/
  odd : doc.elements.length % 2 = 1
  /-- Nodes stand at even indices and relationships at odd ones. -/
  sorts : ∀ entry ∈ doc.elements.zipIdx, entry.1.sort = expectedSort entry.2
  /-- All lengths mean something. -/
  lengths : ∀ r, .relationship r ∈ doc.elements → ∀ length ∈ r.length, length.IsUsable
  /-- Filters refer to keys that elements have. -/
  filters : ∀ filter ∈ doc.filters, ∃ element ∈ doc.elements, element.key = some filter.key
  /-- Return items refer to keys that elements have. -/
  returns : ∀ item ∈ doc.returns, ∃ element ∈ doc.elements, element.key = some item.key

/-! ### Defects -/

/-- What is wrong with a length. -/
def DocumentLength.defect? : DocumentLength → Option DocumentError
  | .between (some least) (some greatest) =>
      if greatest < least then some (.build (.invertedLength least greatest)) else none
  | .text s => if Blank.trim s = "*" then none else some (.invalidLength s)
  | _ => none

/-- What is wrong with the length of an element. -/
def DocumentElement.lengthDefect? : DocumentElement → Option DocumentError
  | .node _ => none
  | .relationship r => r.length.bind DocumentLength.defect?

/-- What is wrong with the element at an index. -/
def DocumentElement.defect? (index : Nat) (element : DocumentElement) : Option DocumentError :=
  if element.sort = expectedSort index then element.lengthDefect?
  else some (.unexpectedElement index (expectedSort index))

namespace QueryDocument

/-- The defects of elements, of which the first has the given index. -/
def elementDefects (first : Nat) (elements : List DocumentElement) : List DocumentError :=
  (elements.zipIdx first).filterMap fun entry => entry.1.defect? entry.2

/-- What is wrong with the end of a pattern of so many elements. -/
def endDefect? (count : Nat) : Option DocumentError :=
  if count = 0 then some .emptyPattern
  else if count % 2 = 0 then some (.build .incompletePattern)
  else none

/-- What is wrong with a reference to a key. -/
def referenceDefect? (doc : QueryDocument) (key : String) : Option DocumentError :=
  if doc.elements.any fun element => element.key == some key then none
  else some (.unknownVariable key)

/-- **The defects of a document, in order.** -/
def defects (doc : QueryDocument) : List DocumentError :=
  elementDefects 0 doc.elements ++ (endDefect? doc.elements.length).toList ++
    doc.filters.filterMap (fun filter => doc.referenceDefect? filter.key) ++
    doc.returns.filterMap (fun item => doc.referenceDefect? item.key)

theorem elementDefects_cons (first : Nat) (element : DocumentElement)
    (rest : List DocumentElement) :
    elementDefects first (element :: rest) =
      (element.defect? first).toList ++ elementDefects (first + 1) rest := by
  rw [elementDefects, List.zipIdx_cons, List.filterMap_cons]
  dsimp only
  cases element.defect? first <;> rfl

end QueryDocument

theorem DocumentLength.defect?_eq_none_iff (length : DocumentLength) :
    length.defect? = none ↔ length.IsUsable := by
  cases length with
  | exactly hops => simp [defect?, IsUsable]
  | between least greatest =>
      cases least <;> cases greatest <;> simp [defect?, IsUsable]
  | text s => simp [defect?, IsUsable]

theorem DocumentElement.lengthDefect?_eq_none_iff (element : DocumentElement) :
    element.lengthDefect? = none ↔
      ∀ r, .relationship r = element → ∀ length ∈ r.length, length.IsUsable := by
  cases element with
  | node n => exact iff_of_true rfl nofun
  | relationship r =>
      cases hlength : r.length <;>
        simp [lengthDefect?, hlength, DocumentLength.defect?_eq_none_iff]

theorem DocumentElement.defect?_eq_none_iff (index : Nat) (element : DocumentElement) :
    element.defect? index = none ↔
      element.sort = expectedSort index ∧ element.lengthDefect? = none := by
  unfold defect?
  split <;> simp [*]

/-! ### The translation reports the first defect -/

namespace QueryDocument

variable (doc : QueryDocument)

theorem result_withLength (rel : RelationshipPattern) (length : PathLength) :
    (rel.withLength length).result =
      match length.inversion? with
      | some (least, greatest) => .error (.invertedLength least greatest)
      | none => .ok { rel with length := some length } := by
  unfold RelationshipPattern.withLength PathLength.check
  rw [Logged.result_bind]
  cases length.inversion? <;> rfl

theorem reports_relationshipPattern (index : Nat) (r : DocumentRelationship) :
    Reports (DocumentElement.relationship r).lengthDefect?.toList
      (doc.relationshipPattern index r).result := by
  unfold relationshipPattern DocumentRelationship.pattern
  cases hlength : r.length with
  | none =>
      simp only [DocumentElement.lengthDefect?, hlength]
      exact reports_ok _
  | some length =>
      simp only [DocumentElement.lengthDefect?, hlength, Option.bind_some]
      cases length with
      | exactly hops => exact reports_ok _
      | between least greatest =>
          simp only [DocumentLength.toPathLength, Logged.mapError, result_withLength,
            PathLength.inversion?]
          cases least with
          | none => exact reports_ok _
          | some least =>
              cases greatest with
              | none => exact reports_ok _
              | some greatest =>
                  by_cases hinverted : greatest < least
                  · simp only [DocumentLength.defect?, hinverted, if_true]
                    exact reports_error _ _
                  · simp only [DocumentLength.defect?, hinverted, if_false]
                    exact reports_ok _
      | text s =>
          by_cases hstar : Blank.trim s = "*"
          · simp only [DocumentLength.toPathLength, DocumentLength.defect?, hstar, if_true]
            exact reports_ok _
          · simp only [DocumentLength.toPathLength, DocumentLength.defect?, hstar, if_false]
            exact reports_error _ _

theorem expectedSort_of_even {index : Nat} (h : index % 2 = 0) : expectedSort index = .node := by
  rw [expectedSort, if_pos h]

theorem expectedSort_of_odd {index : Nat} (h : index % 2 = 1) :
    expectedSort index = .relationship := by
  rw [expectedSort, if_neg (by omega)]

/-- **The hops of a pattern**, from an odd index on: the elements come in pairs, and the first of
them may be the last element there is. -/
theorem reports_hops (index : Nat) (elements : List DocumentElement) : index % 2 = 1 →
    Reports (elementDefects index elements ++ (endDefect? (index + elements.length)).toList)
      (doc.hops index elements).result := by
  induction index, elements using hops.induct with
  | case1 index =>
      intro hodd
      have hend : endDefect? (index + ([] : List DocumentElement).length) = none := by
        rw [List.length_nil, endDefect?, if_neg (by omega), if_neg (by omega)]
      rw [hend]
      exact reports_ok []
  | case2 index n rest =>
      intro hodd
      have hdefect : (DocumentElement.node n).defect? index =
          some (.unexpectedElement index .relationship) := by
        rw [DocumentElement.defect?, expectedSort_of_odd hodd]
        rfl
      rw [elementDefects_cons, hdefect]
      exact reports_error _ _
  | case3 index r rest ih =>
      intro hodd
      have hdefect : (DocumentElement.relationship r).defect? index =
          (DocumentElement.relationship r).lengthDefect? := by
        rw [DocumentElement.defect?, expectedSort_of_odd hodd]
        rfl
      have heven : (index + 1) % 2 = 0 := by omega
      rw [elementDefects_cons, hdefect, List.append_assoc, hops, Logged.result_bind]
      refine (doc.reports_relationshipPattern index r).bind fun rel => ?_
      cases rest with
      | nil =>
          have hend : endDefect? (index + [DocumentElement.relationship r].length) =
              some (.build .incompletePattern) := by
            rw [List.length_singleton, endDefect?, if_neg (by omega), if_pos heven]
          rw [hend]
          exact reports_error _ _
      | cons element rest =>
          rw [elementDefects_cons]
          cases element with
          | relationship r' =>
              have hdefect' : (DocumentElement.relationship r').defect? (index + 1) =
                  some (.unexpectedElement (index + 1) .node) := by
                rw [DocumentElement.defect?, expectedSort_of_even heven]
                rfl
              rw [hdefect']
              exact reports_error _ _
          | node n =>
              have hdefect' : (DocumentElement.node n).defect? (index + 1) = none := by
                rw [DocumentElement.defect?, expectedSort_of_even heven]
                rfl
              have hlength : index + (DocumentElement.relationship r :: .node n :: rest).length =
                  index + 2 + rest.length := by
                simp only [List.length_cons]
                omega
              rw [hdefect', hlength, Logged.result_bind]
              have hrest := (ih (by omega)).bind fun more =>
                reports_ok (ε := DocumentError)
                  ((⟨rel, doc.nodePattern (index + 1) n⟩ : Hop) :: more)
              rwa [List.append_nil] at hrest

theorem reports_pattern :
    Reports (elementDefects 0 doc.elements ++ (endDefect? doc.elements.length).toList)
      doc.pattern.result := by
  unfold pattern
  cases doc.elements with
  | nil => exact reports_error _ _
  | cons element rest =>
      cases element with
      | relationship r => exact reports_error _ _
      | node n =>
          have hrest := (doc.reports_hops 1 rest rfl).bind fun hops =>
            reports_ok (ε := DocumentError) (Pattern.mk (doc.nodePattern 0 n) hops)
          rw [List.append_nil] at hrest
          rw [elementDefects_cons, List.length_cons, Nat.add_comm rest.length, Logged.result_bind]
          exact hrest

/-- A key is known if an element has it. -/
theorem reports_referenced (key : String) :
    Reports (doc.referenceDefect? key).toList (doc.referenced key) := by
  have hfound : (doc.variableOf? key).isSome =
      doc.elements.any fun element => element.key == some key := by
    have hany := List.any_map (l := doc.elements.zipIdx) (f := Prod.fst)
      (p := fun element => element.key == some key)
    rw [List.zipIdx_map_fst] at hany
    rw [variableOf?, Option.isSome_map, List.isSome_find?, hany]
    rfl
  rw [referenceDefect?, referenced, ← hfound]
  cases doc.variableOf? key with
  | none => exact reports_error _ _
  | some v => exact reports_ok v

/-- References from several places to keys. -/
theorem reports_references {α β : Type} (keyOf : α → String) (make : α × Nat → Variable → β)
    (first : Nat) (items : List α) :
    Reports (items.filterMap fun item => doc.referenceDefect? (keyOf item))
      ((items.zipIdx first).mapM fun entry =>
        (doc.referenced (keyOf entry.1)).map (make entry)) := by
  have hsteps := reports_mapM
    (fun entry => (doc.reports_referenced (keyOf entry.1)).map (make entry)) (items.zipIdx first)
  rwa [filterMap_zipIdx_fst fun item => doc.referenceDefect? (keyOf item)] at hsteps

/-- **The translation reports the first defect of a document.** -/
theorem reports_toQuery : Reports doc.defects doc.toQuery.result := by
  have hconditions := doc.reports_references DocumentFilter.key conditionFor
    (propertyCount doc.elements) doc.filters
  have hcolumns := doc.reports_references DocumentReturn.key columnFor doc.elements.length
    doc.returns
  rw [toQuery_eq, Logged.result_bind, defects, List.append_assoc]
  refine doc.reports_pattern.bind fun p => ?_
  rw [Logged.result_bind]
  refine hconditions.bind fun conditions => ?_
  rw [Logged.result_bind]
  have hquery := hcolumns.bind fun columns =>
    reports_ok (ε := DocumentError) (Query.mk [.matching (doc.matchClause p conditions),
      .returning (.ofColumns columns)])
  rwa [List.append_nil] at hquery

/-! ### Documents without a defect are well shaped -/

theorem elementDefects_eq_nil_iff (elements : List DocumentElement) :
    elementDefects 0 elements = [] ↔
      (∀ entry ∈ elements.zipIdx, entry.1.sort = expectedSort entry.2) ∧
        ∀ r, .relationship r ∈ elements → ∀ length ∈ r.length, length.IsUsable := by
  have hlengths : (∀ entry ∈ elements.zipIdx, entry.1.lengthDefect? = none) ↔
      ∀ r, .relationship r ∈ elements → ∀ length ∈ r.length, length.IsUsable := by
    have hfst := List.forall_mem_map (l := elements.zipIdx) (f := Prod.fst)
      (P := fun element : DocumentElement => element.lengthDefect? = none)
    rw [List.zipIdx_map_fst] at hfst
    rw [← hfst]
    simp only [DocumentElement.lengthDefect?_eq_none_iff]
    constructor
    · intro h r hr
      exact h _ hr r rfl
    · rintro h _ hmem r rfl
      exact h r hmem
  simp only [elementDefects, List.filterMap_eq_nil_iff, DocumentElement.defect?_eq_none_iff,
    imp_and, forall_and, hlengths]

theorem endDefect?_eq_none_iff (count : Nat) : endDefect? count = none ↔ count % 2 = 1 := by
  unfold endDefect?
  split
  · simp [*]
  · split <;> simp <;> omega

theorem referenceDefect?_eq_none_iff (key : String) :
    doc.referenceDefect? key = none ↔ ∃ element ∈ doc.elements, element.key = some key := by
  simp [referenceDefect?]

theorem defects_eq_nil_iff : doc.defects = [] ↔ doc.IsWellShaped := by
  have hend : (endDefect? doc.elements.length).toList = [] ↔ doc.elements.length % 2 = 1 := by
    rw [Option.toList_eq_nil_iff, endDefect?_eq_none_iff]
  simp only [defects, List.append_eq_nil_iff, elementDefects_eq_nil_iff, hend,
    List.filterMap_eq_nil_iff, referenceDefect?_eq_none_iff]
  constructor
  · rintro ⟨⟨⟨⟨hsorts, hlengths⟩, hodd⟩, hfilters⟩, hreturns⟩
    refine ⟨?_, hodd, hsorts, hlengths, hfilters, hreturns⟩
    intro hempty
    rw [hempty] at hodd
    cases hodd
  · intro h
    exact ⟨⟨⟨⟨h.sorts, h.lengths⟩, h.odd⟩, h.filters⟩, h.returns⟩

end QueryDocument

/-- **Documents are accepted exactly if they are well shaped, and otherwise the first defect is
reported.** -/
theorem toQuery_iff (doc : QueryDocument) :
    ((∃ q, doc.toQuery.result = .ok q) ↔ doc.IsWellShaped) ∧
      ∀ e, doc.toQuery.result = .error e ↔ doc.defects.head? = some e := by
  refine ⟨?_, doc.reports_toQuery⟩
  rw [doc.reports_toQuery.exists_ok_iff, doc.defects_eq_nil_iff]

/-- The length of a relationship comes before the node that is missing behind it. -/
example : (QueryDocument.mk false false
    [.node ⟨some "a", [], []⟩, .relationship ⟨none, none, .right, some (.text "2"), []⟩]
    [⟨"b", "name", .null⟩] []).defects =
    [.invalidLength "2", .build .incompletePattern, .unknownVariable "b"] := by decide

end CypherQuery
