/-
**The variables of a query document.**

An element of a document stands for a variable: the one of its key, or one of its own.  The key, or
without one the index, tells which; so the variables of a document are counted by the different
keys and the elements without a key.  Every name of a return item has a variable of its own, whose
number is larger than those of the elements.

Main definitions:

* `CypherQuery.QueryDocument.variableCount` — **how many different variables the elements have**;
* `CypherQuery.QueryDocument.referent` — what tells to which variable an element belongs;
* `CypherQuery.QueryDocument.aliases`, `CypherQuery.QueryDocument.aliasVariables` — the names of
  return items, and their variables.

Main results:

* `CypherQuery.QueryDocument.variableAt_eq_iff` — which elements share a variable;
* `CypherQuery.QueryDocument.length_dedup_elementVariables` — **the number of different variables**;
* `CypherQuery.QueryDocument.nodup_aliasVariables` — names of different return items have different
  variables.
-/

import CypherQuery.Proofs.Document.Defects
import Mathlib.Data.List.Dedup

set_option autoImplicit false

namespace CypherQuery

/-! ### Numbered items and items without repetition -/

theorem eq_of_mem_zipIdx {α : Type} {as : List α} {entry other : α × Nat} (h : entry ∈ as.zipIdx)
    (h' : other ∈ as.zipIdx) (hindex : entry.2 = other.2) : entry = other := by
  rw [List.mem_zipIdx_iff_getElem?] at h h'
  rw [hindex, h'] at h
  exact Prod.ext (Option.some.inj h).symm hindex

theorem pairwise_zipIdx_ne {α : Type} (as : List α) (first : Nat) :
    (as.zipIdx first).Pairwise fun entry other => entry.2 ≠ other.2 := by
  have hindices : ((as.zipIdx first).map Prod.snd).Nodup := by
    rw [List.zipIdx_map_snd]
    exact List.nodup_range'
  exact List.pairwise_map.1 hindices

/-- Lists are counted alike if they repeat themselves at the same places. -/
theorem length_dedup_map_congr {α β γ : Type} [DecidableEq β] [DecidableEq γ] {f : α → β}
    {g : α → γ} {as : List α} (h : ∀ a ∈ as, ∀ b ∈ as, f a = f b ↔ g a = g b) :
    (as.map f).dedup.length = (as.map g).dedup.length := by
  induction as with
  | nil => rfl
  | cons a rest ih =>
      have hrest := ih fun b hb c hc =>
        h b (List.mem_cons_of_mem a hb) c (List.mem_cons_of_mem a hc)
      have hmem : f a ∈ rest.map f ↔ g a ∈ rest.map g := by
        simp only [List.mem_map]
        refine exists_congr fun b => and_congr_right fun hb => ?_
        exact h b (List.mem_cons_of_mem a hb) a List.mem_cons_self
      rw [List.map_cons, List.map_cons]
      by_cases hfirst : f a ∈ rest.map f
      · rw [List.dedup_cons_of_mem hfirst, List.dedup_cons_of_mem (hmem.1 hfirst), hrest]
      · rw [List.dedup_cons_of_notMem hfirst, List.dedup_cons_of_notMem (mt hmem.2 hfirst),
          List.length_cons, List.length_cons, hrest]

namespace QueryDocument

variable (doc : QueryDocument)

/-! ### The variables of a document -/

/-- **How many different variables the elements have**: one for each key, and one for each element
without a key. -/
def variableCount : Nat :=
  (doc.elements.filterMap DocumentElement.key).dedup.length +
    doc.elements.countP fun element => element.key.isNone

/-- What tells to which variable an element belongs: its key, or without one its index. -/
def referent (entry : DocumentElement × Nat) : String ⊕ Nat :=
  match entry.1.key with
  | some key => .inl key
  | none => .inr entry.2

theorem referent_eq_inl_iff {entry : DocumentElement × Nat} {key : String} :
    referent entry = .inl key ↔ entry.1.key = some key := by
  cases hkey : entry.1.key <;> simp [referent, hkey]

theorem referent_eq_inr_iff {entry : DocumentElement × Nat} {index : Nat} :
    referent entry = .inr index ↔ entry.1.key = none ∧ entry.2 = index := by
  cases hkey : entry.1.key <;> simp [referent, hkey]

variable {doc}

theorem exists_introduced_of_variableOf? {key : String} {v : Variable}
    (h : doc.variableOf? key = some v) :
    ∃ source ∈ doc.elements.zipIdx, source.1.key = some key ∧
      v = doc.introduced source.2 source.1 := by
  rw [variableOf?, Option.map_eq_some_iff] at h
  obtain ⟨source, hfound, rfl⟩ := h
  have hkey := List.find?_some hfound
  exact ⟨source, List.mem_of_find?_eq_some hfound, by simpa using hkey, rfl⟩

theorem exists_variableOf? {entry : DocumentElement × Nat} (h : entry ∈ doc.elements.zipIdx)
    {key : String} (hkey : entry.1.key = some key) : ∃ v, doc.variableOf? key = some v := by
  have hfound : (doc.elements.zipIdx.find? fun e => e.1.key == some key).isSome = true := by
    rw [List.find?_isSome]
    exact ⟨entry, h, by simp [hkey]⟩
  rw [variableOf?]
  exact Option.isSome_iff_exists.1 ((Option.isSome_map).trans hfound)

/-- The variable of an element is introduced by an element with the same key, and by no other one
if there is no key. -/
theorem exists_source {entry : DocumentElement × Nat} (h : entry ∈ doc.elements.zipIdx) :
    ∃ source ∈ doc.elements.zipIdx, referent source = referent entry ∧
      doc.variableAt entry.2 entry.1 = doc.introduced source.2 source.1 := by
  cases hkey : entry.1.key with
  | none => exact ⟨entry, h, rfl, variableAt_of_key_eq_none hkey⟩
  | some key =>
      obtain ⟨v, hv⟩ := exists_variableOf? h hkey
      obtain ⟨source, hsource, hkey', rfl⟩ := exists_introduced_of_variableOf? hv
      have hreferent := (referent_eq_inl_iff.2 hkey').trans (referent_eq_inl_iff.2 hkey).symm
      exact ⟨source, hsource, hreferent, variableAt_of_key hkey hv⟩

theorem variableAt_eq_iff {entry other : DocumentElement × Nat}
    (h : entry ∈ doc.elements.zipIdx) (h' : other ∈ doc.elements.zipIdx) :
    doc.variableAt entry.2 entry.1 = doc.variableAt other.2 other.1 ↔
      referent entry = referent other := by
  constructor
  · intro hsame
    obtain ⟨source, hsource, hreferent, hv⟩ := exists_source h
    obtain ⟨source', hsource', hreferent', hv'⟩ := exists_source h'
    -- the variable tells the index of the element that introduces it
    have hindex : source.2 = source'.2 := congrArg Variable.id (hv.symm.trans (hsame.trans hv'))
    rw [← hreferent, ← hreferent', eq_of_mem_zipIdx hsource hsource' hindex]
  · intro hsame
    cases hkey : entry.1.key with
    | none =>
        have hother := hsame.symm.trans (referent_eq_inr_iff.2 ⟨hkey, rfl⟩)
        rw [eq_of_mem_zipIdx h h' (referent_eq_inr_iff.1 hother).2.symm]
    | some key =>
        have hkey' := referent_eq_inl_iff.1 (hsame.symm.trans (referent_eq_inl_iff.2 hkey))
        obtain ⟨v, hv⟩ := exists_variableOf? h hkey
        rw [variableAt_of_key hkey hv, variableAt_of_key hkey' hv]

/-- Different keys are counted once, and elements without a key one by one. -/
theorem length_dedup_referents (elements : List DocumentElement) : ∀ first : Nat,
    ((elements.zipIdx first).map referent).dedup.length =
      (elements.filterMap DocumentElement.key).dedup.length +
        elements.countP fun element => element.key.isNone := by
  induction elements with
  | nil => intro first; rfl
  | cons element rest ih =>
      intro first
      rw [List.zipIdx_cons, List.map_cons]
      cases hkey : element.key with
      | none =>
          have hfirst : referent (element, first) = .inr first :=
            referent_eq_inr_iff.2 ⟨hkey, rfl⟩
          have hnew : (.inr first : String ⊕ Nat) ∉ (rest.zipIdx (first + 1)).map referent := by
            intro hmem
            obtain ⟨entry, hentry, hreferent⟩ := List.mem_map.1 hmem
            have hlater := List.le_snd_of_mem_zipIdx hentry
            have hindex := (referent_eq_inr_iff.1 hreferent).2
            omega
          rw [hfirst, List.dedup_cons_of_notMem hnew, List.length_cons, ih,
            List.filterMap_cons_none hkey, List.countP_cons_of_pos (by simp [hkey]), Nat.add_assoc]
      | some key =>
          have hfirst : referent (element, first) = .inl key := referent_eq_inl_iff.2 hkey
          have hmem : (.inl key : String ⊕ Nat) ∈ (rest.zipIdx (first + 1)).map referent ↔
              key ∈ rest.filterMap DocumentElement.key := by
            rw [← filterMap_zipIdx_fst _ rest (first + 1)]
            simp only [List.mem_map, List.mem_filterMap, referent_eq_inl_iff]
          rw [hfirst, List.filterMap_cons_some hkey, List.countP_cons_of_neg (by simp [hkey])]
          by_cases hagain : key ∈ rest.filterMap DocumentElement.key
          · rw [List.dedup_cons_of_mem (hmem.2 hagain), List.dedup_cons_of_mem hagain, ih]
          · rw [List.dedup_cons_of_notMem (mt hmem.1 hagain), List.dedup_cons_of_notMem hagain,
              List.length_cons, List.length_cons, ih]
            omega

/-- **The number of different variables.** -/
theorem length_dedup_elementVariables : doc.elementVariables.dedup.length = doc.variableCount := by
  rw [elementVariables, length_dedup_map_congr fun entry h other h' => variableAt_eq_iff h h']
  exact length_dedup_referents doc.elements 0

theorem mem_elementVariables_of_variableOf? {key : String} {v : Variable}
    (h : doc.variableOf? key = some v) : v ∈ doc.elementVariables := by
  obtain ⟨source, hsource, hkey, -⟩ := exists_introduced_of_variableOf? h
  exact List.mem_map.2 ⟨source, hsource, variableAt_of_key hkey h⟩

/-- The number of a variable is the index of an element. -/
theorem exists_introduced_of_mem {v : Variable} (h : v ∈ doc.elementVariables) :
    ∃ index element, index < doc.elements.length ∧ v = doc.introduced index element := by
  obtain ⟨entry, hentry, rfl⟩ := List.mem_map.1 h
  obtain ⟨source, hsource, -, hv⟩ := exists_source hentry
  obtain ⟨hindex, -⟩ := List.getElem?_eq_some_iff.1 (List.mem_zipIdx_iff_getElem?.1 hsource)
  exact ⟨source.2, source.1, hindex, hv⟩

/-! ### The names of return items -/

variable (doc)

/-- The names of the return items. -/
def aliases : List String := doc.returns.filterMap DocumentReturn.name

/-- The variable of the name of a return item, which has the given number. -/
def aliasVariable? (entry : DocumentReturn × Nat) : Option Variable :=
  entry.1.name.map fun name => ⟨entry.2, .value, some name⟩

/-- The variables of the names of the return items. -/
def aliasVariables : List Variable :=
  (doc.returns.zipIdx doc.elements.length).filterMap aliasVariable?

theorem filterMap_name_aliasVariables :
    doc.aliasVariables.filterMap Variable.name = doc.aliases := by
  rw [aliasVariables, List.filterMap_filterMap, aliases,
    ← filterMap_zipIdx_fst _ doc.returns doc.elements.length]
  refine List.filterMap_congr fun entry _ => ?_
  rw [aliasVariable?]
  cases entry.1.name <;> rfl

variable {doc}

theorem of_mem_aliasVariables {v : Variable} (h : v ∈ doc.aliasVariables) :
    doc.elements.length ≤ v.id ∧ v.name.isSome = true := by
  obtain ⟨entry, hentry, hv⟩ := List.mem_filterMap.1 h
  obtain ⟨name, -, rfl⟩ := Option.map_eq_some_iff.1 hv
  exact ⟨List.le_snd_of_mem_zipIdx hentry, rfl⟩

/-- Names of different return items have different variables, also if they are the same. -/
theorem nodup_aliasVariables : doc.aliasVariables.Nodup := by
  rw [aliasVariables, List.Nodup, List.pairwise_filterMap]
  refine (pairwise_zipIdx_ne doc.returns doc.elements.length).imp ?_
  intro entry other hne v hv w hw hsame
  obtain ⟨name, -, rfl⟩ := Option.map_eq_some_iff.1 hv
  obtain ⟨name', -, rfl⟩ := Option.map_eq_some_iff.1 hw
  exact hne (congrArg Variable.id hsame)

end QueryDocument

end CypherQuery
