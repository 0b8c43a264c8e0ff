/-
**The parts of an expression.**

An expression holds others in lists and in the entries of maps.  Proofs about expressions go by
one induction, in which every operand, argument, item and entry has the property that is shown.
What is said of all places in a tree is said of its parts: the expressions that stand in it,
itself included.

Main definitions:

* `CypherQuery.Expression.parts` — the expressions that stand in an expression;
* `CypherQuery.Expression.children` — those right below it.

Main results:

* `CypherQuery.Expression.induction` — **induction over expressions**;
* `CypherQuery.Expression.parts_eq`, `CypherQuery.Expression.all_parts_child` — the parts, from
  those right below.
-/

import CypherQuery.Expression.Basic

set_option autoImplicit false

namespace CypherQuery.Expression

/-! ### Induction -/

section Induction

variable {motive : Expression → Prop} (literal : ∀ l, motive (.literal l))
  (reference : ∀ v, motive (.reference v)) (placeholder : ∀ p, motive (.placeholder p))
  (property : ∀ base key, motive base → motive (.property base key))
  (application : ∀ op operands, (∀ e ∈ operands, motive e) → motive (.application op operands))
  (call : ∀ function arguments, (∀ e ∈ arguments, motive e) → motive (.call function arguments))
  (list : ∀ items, (∀ e ∈ items, motive e) → motive (.list items))
  (map : ∀ entries, (∀ entry ∈ entries, motive entry.2) → motive (.map entries))
  (identityOf : ∀ v, motive (.identityOf v)) (labelsOf : ∀ v, motive (.labelsOf v))
  (raw : ∀ text, motive (.raw text))

include literal reference placeholder property application call list map identityOf labelsOf raw

/-- **Induction over expressions**: the lists and the entries of maps in an expression are gone
through together with the expression. -/
@[elab_as_elim] theorem induction (e : Expression) : motive e := by
  refine @Expression.rec motive (fun es => ∀ e ∈ es, motive e)
    (fun entries => ∀ entry ∈ entries, motive entry.2) (fun entry => motive entry.2)
    literal reference placeholder property application call list map identityOf labelsOf raw
    ?_ ?_ ?_ ?_ ?_ e
  -- a list has the property if all its items have it, and a map likewise
  · exact fun _ h => absurd h List.not_mem_nil
  · intro head tail hhead htail e he
    rcases List.mem_cons.1 he with rfl | he
    · exact hhead
    · exact htail e he
  · exact fun _ h => absurd h List.not_mem_nil
  · intro head tail hhead htail entry he
    rcases List.mem_cons.1 he with rfl | he
    · exact hhead
    · exact htail entry he
  · exact fun _ _ h => h

end Induction

/-! ### Parts -/

mutual

/-- **The expressions that stand in an expression**, itself included. -/
def parts : Expression → List Expression
  | .property base key => .property base key :: parts base
  | .application op operands => .application op operands :: partsAll operands
  | .call function arguments => .call function arguments :: partsAll arguments
  | .list items => .list items :: partsAll items
  | .map entries => .map entries :: partsEntries entries
  | e => [e]

/-- The expressions that stand in expressions. -/
def partsAll : List Expression → List Expression
  | [] => []
  | e :: rest => parts e ++ partsAll rest

/-- The expressions that stand in entries. -/
def partsEntries : List (String × Expression) → List Expression
  | [] => []
  | (_, e) :: rest => parts e ++ partsEntries rest

end

/-- The expressions right below an expression. -/
def children : Expression → List Expression
  | .property base _ => [base]
  | .application _ operands => operands
  | .call _ arguments => arguments
  | .list items => items
  | .map entries => entries.map Prod.snd
  | _ => []

theorem partsAll_eq_flatMap (es : List Expression) : partsAll es = es.flatMap parts := by
  induction es with
  | nil => rfl
  | cons e rest ih => simp [partsAll, ih]

theorem partsEntries_eq_flatMap (entries : List (String × Expression)) :
    partsEntries entries = (entries.map Prod.snd).flatMap parts := by
  induction entries with
  | nil => rfl
  | cons entry rest ih => simp [partsEntries, ih]

/-- **The parts of an expression** are itself and the parts of those below it. -/
theorem parts_eq (e : Expression) : e.parts = e :: e.children.flatMap parts := by
  cases e <;> simp [parts, children, partsAll_eq_flatMap, partsEntries_eq_flatMap]

theorem self_mem_parts (e : Expression) : e ∈ e.parts := by
  rw [parts_eq]
  exact List.mem_cons_self

/-- **What holds of all parts of an expression holds of all parts of those below it.** -/
theorem all_parts_child {P : Expression → Prop} {e : Expression} (h : ∀ x ∈ e.parts, P x) :
    ∀ child ∈ e.children, ∀ x ∈ child.parts, P x := by
  intro child hchild x hx
  refine h x ?_
  rw [parts_eq]
  exact List.mem_cons_of_mem e (List.mem_flatMap.2 ⟨child, hchild, hx⟩)

/-- Induction over expressions, where all forms are treated alike. -/
theorem induction_children {motive : Expression → Prop}
    (h : ∀ e, (∀ child ∈ e.children, motive child) → motive e) (e : Expression) : motive e := by
  have hnone : ∀ e : Expression, e.children = [] → motive e := by
    intro e he
    refine h e fun child hchild => ?_
    rw [he] at hchild
    cases hchild
  induction e using Expression.induction with
  | literal l => exact hnone _ rfl
  | reference v => exact hnone _ rfl
  | placeholder p => exact hnone _ rfl
  | identityOf v => exact hnone _ rfl
  | labelsOf v => exact hnone _ rfl
  | raw text => exact hnone _ rfl
  | property base key ih => exact h _ (List.forall_mem_singleton.2 ih)
  | application op operands ih => exact h _ ih
  | call function arguments ih => exact h _ ih
  | list items ih => exact h _ ih
  | map entries ih => exact h _ (List.forall_mem_map.2 ih)

end CypherQuery.Expression
