/-
**Dictionaries that keep the order of insertion.**

A dictionary is a list of entries, each a key and a value.  Inserting under a new key appends an
entry; inserting under a key that is there replaces the value where it stands.  So a key keeps its
first position and has its last value.

Main definitions:

* `CypherQuery.Dictionary` — the list of entries;
* `CypherQuery.Dictionary.get?`, `CypherQuery.Dictionary.insert` — look-up and insertion;
* `CypherQuery.Dictionary.ofEntries` — the entries inserted one after the other.

Main results:

* `CypherQuery.Dictionary.get?_insert_self`, `CypherQuery.Dictionary.get?_insert_of_ne` — what is
  found after an insertion;
* `CypherQuery.Dictionary.insert_of_not_mem` — **inserting under a new key appends**;
* `CypherQuery.Dictionary.get?_of_mem`, `CypherQuery.Dictionary.get?_of_isPrefix` — look-up by
  entries.
-/

set_option autoImplicit false

namespace CypherQuery

/-- A dictionary with text keys, as the list of its entries in order of insertion. -/
abbrev Dictionary (α : Type) := List (String × α)

namespace Dictionary

variable {α : Type}

/-- The keys, in order. -/
def keys (d : Dictionary α) : List String := d.map Prod.fst

/-- The value under a key. -/
def get? (d : Dictionary α) (key : String) : Option α :=
  match d with
  | [] => none
  | (k, v) :: rest => if k = key then some v else get? rest key

/-- Puts a value under a key: in place when the key is there, at the end otherwise. -/
def insert (d : Dictionary α) (key : String) (value : α) : Dictionary α :=
  match d with
  | [] => [(key, value)]
  | (k, v) :: rest => if k = key then (k, value) :: rest else (k, v) :: insert rest key value

/-- The entries inserted one after the other. -/
def ofEntries (entries : List (String × α)) : Dictionary α :=
  entries.foldl (fun d e => insert d e.1 e.2) []

/-! ### Look-up after insertion -/

theorem get?_insert_self (d : Dictionary α) (key : String) (value : α) :
    get? (insert d key value) key = some value := by
  induction d with
  | nil => simp [insert, get?]
  | cons e rest ih =>
      by_cases h : e.1 = key
      · simp [insert, get?, h]
      · simp [insert, get?, h, ih]

theorem get?_insert_of_ne (d : Dictionary α) {key key' : String} (h : key ≠ key') (value : α) :
    get? (insert d key value) key' = get? d key' := by
  induction d with
  | nil => simp [insert, get?, h]
  | cons e rest ih =>
      by_cases he : e.1 = key
      · simp [insert, get?, he, h]
      · simp only [insert, if_neg he, get?, ih]

/-- **Inserting under a new key appends the entry.** -/
theorem insert_of_not_mem {d : Dictionary α} {key : String} (h : key ∉ keys d) (value : α) :
    insert d key value = d ++ [(key, value)] := by
  induction d with
  | nil => rfl
  | cons e rest ih =>
      simp only [keys, List.map_cons, List.mem_cons, not_or] at h
      have hne : e.1 ≠ key := fun h' => h.1 h'.symm
      simp [insert, hne, ih h.2]

/-! ### Look-up by entries -/

/-- There is a value under each of the keys. -/
theorem exists_get?_of_mem_keys {d : Dictionary α} {key : String} (h : key ∈ keys d) :
    ∃ value, get? d key = some value := by
  induction d with
  | nil => cases h
  | cons e rest ih =>
      obtain ⟨k, v⟩ := e
      by_cases hk : k = key
      · exact ⟨v, by simp [get?, hk]⟩
      · have hrest : key ∈ keys rest := by
          rcases List.mem_cons.1 h with rfl | hmem
          · exact absurd rfl hk
          · exact hmem
        obtain ⟨value, hvalue⟩ := ih hrest
        exact ⟨value, by simp [get?, hk, hvalue]⟩

/-- If no key occurs twice, every entry is found. -/
theorem get?_of_mem {d : Dictionary α} (hkeys : (keys d).Nodup) {key : String} {value : α}
    (h : (key, value) ∈ d) : get? d key = some value := by
  induction d with
  | nil => cases h
  | cons e rest ih =>
      obtain ⟨k, v⟩ := e
      obtain ⟨hfresh, hrest⟩ := List.nodup_cons.1 hkeys
      rcases List.mem_cons.1 h with heq | hmem
      · cases heq
        simp [get?]
      · have hk : k ≠ key := by
          rintro rfl
          exact hfresh (List.mem_map.2 ⟨(k, value), hmem, rfl⟩)
        simp [get?, hk, ih hrest hmem]

/-- Entries at the end do not change what was found before. -/
theorem get?_of_isPrefix {d e : Dictionary α} (h : d <+: e) {key : String} {value : α}
    (hvalue : get? d key = some value) : get? e key = some value := by
  obtain ⟨tail, rfl⟩ := h
  induction d with
  | nil => cases hvalue
  | cons entry rest ih =>
      obtain ⟨k, v⟩ := entry
      by_cases hk : k = key
      · simpa [get?, hk] using hvalue
      · simp only [List.cons_append, get?, if_neg hk] at hvalue ⊢
        exact ih hvalue

end Dictionary

end CypherQuery
