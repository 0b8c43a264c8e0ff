/-
**Identifiers: plain names and names in backticks.**

Labels, relationship types, property keys and the names of variables and parameters are written
as they stand when they are *plain* identifiers, and between backticks otherwise.  Inside the
backticks every character stands for itself, except that a backtick is written twice; so every
text, the empty one included, has a written form.

Main definitions:

* `CypherQuery.Identifier.isPlain` — a letter or underscore, then letters, digits and underscores;
* `CypherQuery.Identifier.quoted` — the written form between backticks;
* `CypherQuery.Identifier.escape` — **the written form of a name**.

Main results:

* `CypherQuery.Identifier.escape_of_isPlain`, `CypherQuery.Identifier.toList_escape_of_not_isPlain`
  — the two written forms;
* `CypherQuery.Identifier.escape_eq_cons`, `CypherQuery.Identifier.getLast?_escape` — how written
  names start and end.
-/

set_option autoImplicit false

namespace CypherQuery.Identifier

/-! ### Plain identifiers -/

/-- The characters that may start a plain identifier: the ASCII letters and the underscore. -/
def isStart (c : Char) : Bool := c.isAlpha || c == '_'

/-- The characters that may continue a plain identifier: the ASCII letters and digits and the
underscore. -/
def isPart (c : Char) : Bool := c.isAlphanum || c == '_'

/-- Whether a list of characters spells a plain identifier. -/
def isPlainSpelling : List Char → Bool
  | [] => false
  | c :: cs => isStart c && cs.all isPart

/-- Whether a name can be written without backticks. -/
def isPlain (name : String) : Bool := isPlainSpelling name.toList

/-- A plain identifier has a first character, and no other characters than those allowed. -/
theorem exists_cons_of_isPlain {name : String} (h : isPlain name = true) :
    ∃ c cs, name.toList = c :: cs ∧ isStart c = true ∧ cs.all isPart = true := by
  rw [isPlain] at h
  cases hcs : name.toList with
  | nil =>
      rw [hcs] at h
      cases h
  | cons c cs =>
      rw [hcs, isPlainSpelling, Bool.and_eq_true] at h
      exact ⟨c, cs, rfl, h⟩

theorem isPart_of_isStart {c : Char} (h : isStart c = true) : isPart c = true := by
  simp only [isStart, isPart, Char.isAlphanum, Bool.or_eq_true] at h ⊢
  rcases h with h | h
  · exact Or.inl (Or.inl h)
  · exact Or.inr h

/-- No digit starts a plain identifier. -/
theorem isDigit_of_isStart {c : Char} (h : isStart c = true) : c.isDigit = false := by
  rw [isStart, Bool.or_eq_true, beq_iff_eq] at h
  rcases h with hletter | rfl
  · -- All letters stand above the nine.
    have habove : '9'.val < c.val := by
      rcases (Bool.or_eq_true _ _).mp hletter with hupper | hlower
      · exact UInt32.lt_of_lt_of_le (by decide) (of_decide_eq_true hupper).1
      · have hfrom := of_decide_eq_true ((Bool.and_eq_true _ _).mp hlower).1
        exact UInt32.lt_of_lt_of_le (by decide) hfrom
    refine Bool.eq_false_iff.mpr fun hdigit => ?_
    have hbelow := of_decide_eq_true ((Bool.and_eq_true _ _).mp hdigit).2
    exact UInt32.not_lt.mpr hbelow habove
  · rfl

theorem all_isPart_of_isPlain {name : String} (h : isPlain name = true) :
    name.toList.all isPart = true := by
  obtain ⟨c, cs, hname, hstart, hparts⟩ := exists_cons_of_isPlain h
  rw [hname, List.all_cons, isPart_of_isStart hstart, hparts]
  rfl

/-! ### Quoted names -/

/-- The backtick, which opens and closes a quoted name. -/
def backtick : Char := '\x60'

/-- A character inside backticks: a backtick is written twice, all else once. -/
def quotedChar (c : Char) : List Char := if c = backtick then [backtick, backtick] else [c]

/-- A name between backticks. -/
def quoted (cs : List Char) : List Char := backtick :: cs.flatMap quotedChar ++ [backtick]

/-! ### The written form -/

/-- **The written form of a name**: the name itself when it is a plain identifier, and the name
between backticks otherwise. -/
def escape (name : String) : String :=
  if isPlain name then name else String.ofList (quoted name.toList)

theorem escape_of_isPlain {name : String} (h : isPlain name = true) : escape name = name := by
  simp [escape, h]

theorem toList_escape_of_not_isPlain {name : String} (h : isPlain name = false) :
    (escape name).toList = quoted name.toList := by
  simp [escape, h]

/-- A written name has a first character. -/
theorem escape_eq_cons (name : String) : ∃ c cs, (escape name).toList = c :: cs ∧
    (c = backtick ∨ isStart c = true) := by
  cases hplain : isPlain name with
  | true =>
      obtain ⟨c, cs, hname, hstart, -⟩ := exists_cons_of_isPlain hplain
      rw [escape_of_isPlain hplain]
      exact ⟨c, cs, hname, Or.inr hstart⟩
  | false =>
      rw [toList_escape_of_not_isPlain hplain]
      exact ⟨_, _, rfl, Or.inl rfl⟩

/-- A written name has a last character, too: one of a plain identifier, or a backtick. -/
theorem getLast?_escape (name : String) : ∃ c, (escape name).toList.getLast? = some c ∧
    (c = backtick ∨ isPart c = true) := by
  cases hplain : isPlain name with
  | true =>
      obtain ⟨c, cs, hname, -, -⟩ := exists_cons_of_isPlain hplain
      rw [escape_of_isPlain hplain]
      have hlast := List.getLast?_eq_some_getLast (hname ▸ List.cons_ne_nil c cs : name.toList ≠ [])
      exact ⟨_, hlast, Or.inr (List.all_eq_true.1 (all_isPart_of_isPlain hplain) _
        (List.mem_of_getLast? hlast))⟩
  | false =>
      rw [toList_escape_of_not_isPlain hplain, quoted]
      exact ⟨_, List.getLast?_concat, Or.inl rfl⟩

end CypherQuery.Identifier
