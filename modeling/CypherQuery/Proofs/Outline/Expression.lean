/-
**The outlines of expressions.**

Of the text of an expression only the outermost level is left: signs between operands without
parentheses, the words before or behind an operand, keys behind points, and the names of functions.

Main definitions:

* `CypherQuery.Expression.IsSound` — the expressions that can be written and whose text closes what
  it opens.

Main results:

* `CypherQuery.Expression.outline_property`, `CypherQuery.Expression.outline_call`,
  `CypherQuery.Expression.outline_comparison`, `CypherQuery.Expression.outline_after` — **the
  outlines of expressions**, from those of the expressions in them;
* `CypherQuery.Expression.outline_literal` — the outline of a constant is a word or a number.
-/

import CypherQuery.Proofs.Outline
import CypherQuery.Proofs.Quoting.Expression
import CypherQuery.Proofs.Reading.Written

set_option autoImplicit false

namespace CypherQuery

open Scanner (outline Neutral isIdle)

/-! ### Several texts -/

/-- Neutral texts with a sign between each two. -/
theorem Scanner.Neutral.intercalate {sign : List Char} (hsign : sign.all isIdle = true)
    {texts : List (List Char)} (h : ∀ cs ∈ texts, Neutral cs) :
    Neutral (List.intercalate sign texts) := by
  induction texts with
  | nil => exact neutral_nil
  | cons cs rest ih =>
      rw [List.forall_mem_cons] at h
      cases rest with
      | nil => simpa [List.intercalate] using h.1
      | cons ds rest =>
          rw [List.intercalate_cons_cons]
          exact (h.1.append (neutral_of_isIdle hsign)).append (ih h.2)

namespace Expression

/-! ### Expressions that can be written -/

/-- **The expressions that can be written and whose text closes what it opens.** -/
structure IsSound (e : Expression) : Prop where
  /-- What is written as it stands is harmless. -/
  safe : ∀ x ∈ e.parts, x.isSafe = true
  /-- The numbers of operands are right. -/
  complete : ∀ op operands, .application op operands ∈ e.parts →
    op.fault? operands.length = none

namespace IsSound

theorem child {e child : Expression} (h : e.IsSound) (hchild : child ∈ e.children) :
    child.IsSound where
  safe := all_parts_child h.safe child hchild
  complete op operands hmem := by
    refine h.complete op operands ?_
    rw [parts_eq]
    exact List.mem_cons_of_mem e (List.mem_flatMap.2 ⟨child, hchild, hmem⟩)

/-- What has no expressions below it and is harmless. -/
theorem of_parts_eq {e : Expression} (hparts : e.parts = [e]) (hsafe : e.isSafe = true)
    (happlication : ∀ op operands, e ≠ .application op operands) : e.IsSound where
  safe := by rwa [hparts, List.forall_mem_singleton]
  complete op operands hmem := by
    rw [hparts, List.mem_singleton] at hmem
    exact absurd hmem.symm (happlication op operands)

theorem reference (v : Variable) : (Expression.reference v).IsSound :=
  of_parts_eq rfl rfl nofun

/-- A call of a function with a harmless name. -/
theorem call {function : String} {arguments : List Expression}
    (hfunction : (function.toList.all fun c => Identifier.isPart c || c == '.') = true)
    (h : ∀ e ∈ arguments, e.IsSound) : (Expression.call function arguments).IsSound where
  safe := by
    rw [parts_eq, List.forall_mem_cons]
    refine ⟨hfunction, fun x hx => ?_⟩
    obtain ⟨e, he, hmem⟩ := List.mem_flatMap.1 hx
    exact (h e he).safe x hmem
  complete op operands hmem := by
    rw [parts_eq, List.mem_cons] at hmem
    obtain ⟨e, he, hmem⟩ := List.mem_flatMap.1 (hmem.resolve_left nofun)
    exact (h e he).complete op operands hmem

section

variable {op : Operator} {operands : List Expression} (h : (application op operands).IsSound)

include h

theorem fault? : op.fault? operands.length = none := h.complete op operands (self_mem_parts _)

/-- A comparison has two operands. -/
theorem eq_pair (hfamily : op.family = .comparison) : ∃ x y, operands = [x, y] := by
  have hfault := h.fault?
  rw [Operator.fault?, hfamily] at hfault
  exact List.length_eq_two.1 (by simpa using hfault)

/-- A test for null has one operand. -/
theorem eq_singleton (hfamily : op.family = .after) : ∃ x, operands = [x] := by
  have hfault := h.fault?
  rw [Operator.fault?, hfamily] at hfault
  exact List.length_eq_one_iff.1 (by simpa using hfault)

end

end IsSound

/-! ### Neutral expressions -/

section

variable (ν : Naming) {e : Expression}

theorem neutral_chars (h : e.IsSound) : Neutral (e.chars ν) :=
  isNeutral_template (List.all_eq_true.2 h.safe) ν

theorem neutral_besideChars (h : e.IsSound) : Neutral (e.besideChars ν) := by
  rw [← toList_fill_besideTemplate]
  exact isNeutral_besideTemplate e (neutral_chars · h) ν

/-- Operands with an operator between each two. -/
theorem neutral_operands {written : Expression → List Char}
    (hwritten : ∀ e : Expression, e.IsSound → Neutral (written e)) {es : List Expression}
    (h : ∀ e ∈ es, e.IsSound) (op : Operator) :
    Neutral (List.intercalate (Reading.signBetween op).toList (es.map written)) := by
  refine Scanner.Neutral.intercalate ?_ (List.forall_mem_map.2 fun e he => hwritten e (h e he))
  cases op <;> decide

/-! ### The outlines of expressions -/

/-- Parentheses leave nothing of an operand. -/
theorem outline_besideChars (h : e.IsSound) :
    outline (e.besideChars ν) = if e.isUndelimited then [] else outline (e.chars ν) := by
  unfold besideChars
  split
  · exact Scanner.outline_bracketed (neutral_chars ν h) rfl
  · rfl

theorem outline_placeholder (p : Parameter) :
    outline ((placeholder p).chars ν) =
      '$' :: outline (Identifier.escape (ν.ofParameter p)).toList := by
  rw [chars_placeholder, Scanner.outline_append (Scanner.neutral_of_isIdle (by decide))]
  rfl

theorem outline_property {base : Expression} {key : String} (h : (property base key).IsSound) :
    outline ((property base key).chars ν) =
      outline (base.chars ν) ++ '.' :: outline (Identifier.escape key).toList := by
  rw [chars_property, Scanner.outline_append (neutral_chars ν (h.child List.mem_cons_self)),
    Scanner.outline_append (Scanner.neutral_of_isIdle (by decide))]
  rfl

theorem outline_call {function : String} {arguments : List Expression}
    (h : (call function arguments).IsSound) :
    outline ((call function arguments).chars ν) = function.toList := by
  have hinner : Neutral (List.intercalate ", ".toList (arguments.map (chars ν))) :=
    Scanner.Neutral.intercalate (by decide) (List.forall_mem_map.2 fun e he =>
      neutral_chars ν (h.child he))
  have htext : (call function arguments).chars ν = function.toList ++
      '(' :: List.intercalate ", ".toList (arguments.map (chars ν)) ++ ')' :: [] := by
    rw [chars_call]
    simp
  rw [htext]
  exact (Scanner.outline_within hinner rfl (all_isIdle_function (h.safe _ (self_mem_parts _)))
    rfl).trans (List.append_nil _)

theorem outline_identityOf (v : Variable) : outline ((identityOf v).chars ν) = "id".toList := by
  rw [chars_identityOf]
  exact outline_call ν (.call (by decide) (List.forall_mem_singleton.2 (.reference v)))

theorem outline_labelsOf (v : Variable) : outline ((labelsOf v).chars ν) = "labels".toList := by
  rw [chars_labelsOf]
  exact outline_call ν (.call (by decide) (List.forall_mem_singleton.2 (.reference v)))

theorem outline_list {items : List Expression} (h : (list items).IsSound) :
    outline ((list items).chars ν) = [] := by
  rw [chars_list]
  exact Scanner.outline_bracketed (Scanner.Neutral.intercalate (by decide)
    (List.forall_mem_map.2 fun e he => neutral_chars ν (h.child he))) rfl

theorem outline_map {entries : List (String × Expression)} (h : (map entries).IsSound) :
    outline ((map entries).chars ν) = [] := by
  have hentry : ∀ entry ∈ entries, Neutral (entryChars ν entry) := fun entry hmem =>
    (Scanner.neutral_escape entry.1).append ((Scanner.neutral_of_isIdle (by decide)).append
      (neutral_chars ν (h.child (List.mem_map_of_mem hmem))))
  rw [chars_map]
  exact Scanner.outline_bracketed (Scanner.Neutral.intercalate (by decide)
    (List.forall_mem_map.2 hentry)) rfl

/-- What is left of a name has no character but those of plain identifiers. -/
theorem all_isPart_outline_escape (name : String) :
    (outline (Identifier.escape name).toList).all Identifier.isPart = true := by
  rw [Scanner.outline_escape]
  split
  · exact Identifier.all_isPart_of_isPlain ‹_›
  · rfl

/-- **The outline of a constant** is a word or a number. -/
theorem outline_literal (l : Literal) :
    (outline ((literal l).chars ν)).all Identifier.isPart = true ∨
      isNumberText (outline ((literal l).chars ν)) = true := by
  have hnumber : ∀ cs : List Char, isNumberText cs = true → isNumberText (outline cs) = true := by
    intro cs hcs
    rwa [Scanner.outline_of_isIdle (all_isIdle_of_isNumberText hcs)]
  have hchars : (literal l).chars ν = (l.write.toOption.getD "").toList := by
    rw [chars, template, Literal.template]
    cases l.write <;> simp [Piece.write, Except.toOption]
  rw [hchars]
  cases l with
  | null => exact Or.inl (by decide)
  | bool b => cases b <;> exact Or.inl (by decide)
  | integer n => exact Or.inr (hnumber _ (isNumberText_integer n))
  | text s =>
      refine Or.inl ?_
      change (outline (StringLiteral.render s).toList).all Identifier.isPart = true
      rw [Scanner.outline_literal]
      rfl
  | double x =>
      right
      cases hfinite : x.isFinite with
      | true =>
          simpa [Literal.write, hfinite, Except.toOption] using
            hnumber _ (isNumberText_write _ x)
      | false => simp [Literal.write, hfinite, Except.toOption, isNumberText]

end

/-! ### The outlines of applications -/

section

variable (ν : Naming) {op : Operator} {operands : List Expression}
  (h : (application op operands).IsSound)

include h

theorem outline_arithmetic (hfamily : op.family = .arithmetic) :
    outline ((application op operands).chars ν) = [] := by
  rw [chars_application ν h.fault?]
  simp only [hfamily]
  exact Scanner.outline_bracketed
    (neutral_operands (fun _ => neutral_besideChars ν) (fun _ => h.child) op) rfl

theorem outline_connective (hfamily : op.family = .connective) (hlength : operands.length ≠ 1) :
    outline ((application op operands).chars ν) = [] := by
  rw [chars_application ν h.fault?]
  simp only [hfamily, if_neg hlength]
  exact Scanner.outline_bracketed
    (neutral_operands (fun _ => neutral_chars ν) (fun _ => h.child) op) rfl

theorem outline_before (hfamily : op.family = .before) :
    outline ((application op operands).chars ν) = op.keyword.toList ++ [' '] := by
  have hinner := neutral_operands (fun _ => neutral_chars ν) (fun _ => h.child) op
  have hkeyword : (op.keyword.toList ++ [' ']).all isIdle = true := by cases op <;> decide
  have hwithin := @Scanner.outline_within _ _ [] '(' ')' hinner rfl hkeyword rfl
  rw [List.append_nil] at hwithin
  rw [chars_application ν h.fault?]
  simp only [hfamily]
  rw [← hwithin]
  simp [children]

end

section

variable (ν : Naming) {op : Operator} {x y : Expression}

theorem outline_after (h : (application op [x]).IsSound) (hfamily : op.family = .after) :
    outline ((application op [x]).chars ν) =
      outline (x.besideChars ν) ++ (Reading.signAfter op).toList := by
  have hx := neutral_besideChars ν (h.child List.mem_cons_self)
  have hsign : (Reading.signAfter op).toList.all isIdle = true := by cases op <;> decide
  rw [chars_application ν h.fault?]
  simp only [hfamily, List.map_cons, List.map_nil, List.intercalate_singleton]
  rw [Scanner.outline_append hx, Scanner.outline_of_isIdle hsign]

theorem outline_comparison (h : (application op [x, y]).IsSound)
    (hfamily : op.family = .comparison) :
    outline ((application op [x, y]).chars ν) = outline (x.besideChars ν) ++
      ((Reading.signBetween op).toList ++ outline (y.besideChars ν)) := by
  have hx := neutral_besideChars ν (h.child List.mem_cons_self)
  have hsign : (Reading.signBetween op).toList.all isIdle = true := by cases op <;> decide
  rw [chars_application ν h.fault?]
  simp only [hfamily, List.map_cons, List.map_nil, List.intercalate_cons_cons,
    List.intercalate_singleton, List.append_assoc]
  rw [Scanner.outline_append hx, Scanner.outline_append (Scanner.neutral_of_isIdle hsign),
    Scanner.outline_of_isIdle hsign]

/-- A connective with a single operand leaves no trace. -/
theorem chars_connective_singleton (hfamily : op.family = .connective) :
    (application op [x]).chars ν = x.chars ν := by
  have hfault : op.fault? [x].length = none := by
    rw [Operator.fault?, hfamily]
    rfl
  rw [chars_application ν hfault]
  simp only [hfamily, List.length_singleton, if_true, List.map_cons, List.map_nil,
    List.intercalate_singleton]

end

end Expression

end CypherQuery
