/-
**The characters of an expression, with names that are known.**

A template filled with names is a list of characters.  This module says what it is for every form of
expression, and that filling a template which writes nothing but known names is what a build does.

Main definitions:

* `CypherQuery.Expression.chars` — **the characters of an expression**;
* `CypherQuery.Expression.besideChars` — those of an operand beside an operator.

Main results:

* `CypherQuery.Expression.chars_application` — the characters of an application;
* `CypherQuery.Expression.chars_of_render` — **an expression whose identities all have names is
  written with these names**;
* `CypherQuery.Expression.fault?_of_mem_parts` — what can be written has the right numbers of
  operands.
-/

import CypherQuery.Proofs.Reading.Expression
import CypherQuery.Proofs.Template.Expression

set_option autoImplicit false

namespace CypherQuery

namespace Expression

open Reading (signBetween signAfter)

/-! ### Characters -/

/-- **The characters of an expression**, with names that are known. -/
def chars (ν : Naming) (e : Expression) : List Char := (e.template.fill ν).toList

/-- The characters of an operand beside an operator. -/
def besideChars (ν : Naming) (e : Expression) : List Char :=
  if e.isUndelimited then "(".toList ++ (e.chars ν ++ ")".toList) else e.chars ν

/-- The characters of an entry of a map. -/
def entryChars (ν : Naming) (entry : String × Expression) : List Char :=
  (Identifier.escape entry.1).toList ++ (": ".toList ++ entry.2.chars ν)

variable (ν : Naming)

theorem chars_reference (v : Variable) :
    (reference v).chars ν = (Identifier.escape (ν.ofVariable v)).toList := by
  simp [chars, template, Piece.write]

theorem chars_placeholder (p : Parameter) :
    (placeholder p).chars ν = "$".toList ++ (Identifier.escape (ν.ofParameter p)).toList := by
  simp [chars, template, Piece.write]

theorem chars_property (base : Expression) (key : String) :
    (property base key).chars ν =
      base.chars ν ++ (".".toList ++ (Identifier.escape key).toList) := by
  simp [chars, template, Piece.write]

/-- The characters of templates with a sign between each two. -/
theorem toList_fill_joined {α : Type} {template : α → Template} {written : α → List Char}
    (h : ∀ a, (Template.fill ν (template a)).toList = written a) (sign : Piece) (as : List α) :
    (Template.fill ν (Template.joined sign (as.map template))).toList =
      List.intercalate (sign.write ν).toList (as.map written) := by
  rw [Template.fill_joined, String.toList_intercalate, List.map_map, List.map_map]
  exact congrArg _ (List.map_congr_left fun a _ => h a)

theorem chars_call (function : String) (arguments : List Expression) :
    (call function arguments).chars ν = function.toList ++ ("(".toList ++
      (List.intercalate ", ".toList (arguments.map (chars ν)) ++ ")".toList)) := by
  have hjoined := toList_fill_joined ν (fun e => (rfl : _ = chars ν e)) (.text ", ") arguments
  simpa [chars, template, templates_eq_map, Piece.write] using hjoined

theorem chars_list (items : List Expression) :
    (list items).chars ν =
      "[".toList ++ (List.intercalate ", ".toList (items.map (chars ν)) ++ "]".toList) := by
  have hjoined := toList_fill_joined ν (fun e => (rfl : _ = chars ν e)) (.text ", ") items
  simpa [chars, template, templates_eq_map, Piece.write] using hjoined

theorem chars_map (entries : List (String × Expression)) :
    (map entries).chars ν =
      "\x7b".toList ++
        (List.intercalate ", ".toList (entries.map (entryChars ν)) ++ "\x7d".toList) := by
  have hentry : ∀ entry, (Template.fill ν (entryTemplate entry)).toList = entryChars ν entry := by
    intro entry
    simp [entryTemplate, entryChars, chars, Piece.write]
  have hjoined := toList_fill_joined ν hentry (.text ", ") entries
  simpa [chars, template, mapTemplate, entryTemplates_eq_map, Piece.write] using hjoined

/-- What is written for the identity of a variable is a call. -/
theorem chars_identityOf (v : Variable) :
    (identityOf v).chars ν = (call "id" [reference v]).chars ν := by
  simp [chars, template, templates, Piece.write]

/-- What is written for the labels of a variable is a call. -/
theorem chars_labelsOf (v : Variable) :
    (labelsOf v).chars ν = (call "labels" [reference v]).chars ν := by
  simp [chars, template, templates, Piece.write]

theorem toList_fill_besideTemplate (e : Expression) :
    (Template.fill ν (besideTemplate e e.template)).toList = besideChars ν e := by
  unfold besideTemplate besideChars
  split <;> simp [chars, Piece.write]

/-- **The characters of an application**, whose number of operands is right. -/
theorem chars_application {op : Operator} {operands : List Expression}
    (h : op.fault? operands.length = none) :
    (application op operands).chars ν =
      match op.family with
      | .arithmetic => "(".toList ++
          (List.intercalate (signBetween op).toList (operands.map (besideChars ν)) ++ ")".toList)
      | .comparison => List.intercalate (signBetween op).toList (operands.map (besideChars ν))
      | .connective =>
          if operands.length = 1 then
            List.intercalate (signBetween op).toList (operands.map (chars ν))
          else
            "(".toList ++
              (List.intercalate (signBetween op).toList (operands.map (chars ν)) ++ ")".toList)
      | .before => op.keyword.toList ++ (" (".toList ++
          (List.intercalate (signBetween op).toList (operands.map (chars ν)) ++ ")".toList))
      | .after => List.intercalate (signBetween op).toList (operands.map (besideChars ν)) ++
          (signAfter op).toList := by
  have halone := toList_fill_joined ν (fun e => (rfl : _ = chars ν e))
    (.text (signBetween op)) operands
  have hbeside := toList_fill_joined ν (toList_fill_besideTemplate ν)
    (.text (signBetween op)) operands
  have hsign : signBetween op = " " ++ op.keyword ++ " " := rfl
  rw [hsign] at halone hbeside ⊢
  simp only [chars, template, templates_eq_map, applicationTemplate, h, Operator.composeTemplate,
    zipWith_beside]
  cases op.family with
  | arithmetic => simpa [Piece.write] using hbeside
  | comparison => exact hbeside
  | connective =>
      simp only [List.length_map]
      split
      · exact halone
      · simpa [Piece.write] using halone
  | before => simpa [Piece.write] using halone
  | after => simpa [Piece.write, signAfter] using hbeside

/-! ### Expressions that a build writes -/

section

variable {e : Expression} {env : Environment} {text : String}
  (h : (e.render env).result = .ok text)

include h

theorem result_run_template : (e.template.run env).result = .ok text := by
  rw [← quiet_render, BuildM.result_quiet]
  exact h

/-- **An expression whose identities all have names is written with these names.** -/
theorem chars_of_render (hnamed : ∀ o ∈ e.occurrences, (o.lookup env).isSome = true) :
    text.toList = e.chars env.naming := by
  rw [← occurrences_template] at hnamed
  rw [Template.eq_fill_of_named (result_run_template h) hnamed, chars]

end

/-- An expression that can be written has the right numbers of operands. -/
theorem fault?_of_mem_parts {e : Expression} (h : ∀ fault, .fault fault ∉ e.template)
    {op : Operator} {operands : List Expression} (hpart : .application op operands ∈ e.parts) :
    op.fault? operands.length = none := by
  cases hfault : op.fault? operands.length with
  | none => rfl
  | some cause =>
      refine absurd (template_subset_of_mem_parts hpart ?_) (h (.malformed cause))
      rw [template, applicationTemplate, hfault]
      exact List.mem_cons_self

end Expression

end CypherQuery
