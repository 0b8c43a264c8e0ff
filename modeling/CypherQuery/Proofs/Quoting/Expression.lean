/-
**Expressions keep their quotes closed.**

Names, keys and string literals come from outside and may hold any character.  All of them are
written between quotes where they need it, so a scanner that goes through the text of an expression
ends as it began.  What is written as it stands is exempt: raw text may hold anything, and the names
of functions are taken to be words with dots.

Main definitions:

* `CypherQuery.Expression.isSafe` — whether what an expression writes as it stands is harmless;
* `CypherQuery.Template.IsNeutral` — **templates that a scanner does not notice**, whatever the
  names are.

Main results:

* `CypherQuery.Template.IsNeutral.within`, `CypherQuery.Template.isNeutral_joined` — neutral
  templates in brackets, and with a sign between each two;
* `CypherQuery.Expression.isNeutral_template` — **the templates of expressions are neutral**.
-/

import CypherQuery.Proofs.NumberText
import CypherQuery.Proofs.Scanner
import CypherQuery.Proofs.Template.Expression

set_option autoImplicit false

namespace CypherQuery

open Scanner (isIdle)

/-! ### What is written as it stands -/

/-- Whether what an expression writes as it stands is harmless, those below it aside: it is no raw
text, and the name of a function consists of identifier characters and dots. -/
def Expression.isSafe : Expression → Bool
  | .call function _ => function.toList.all fun c => Identifier.isPart c || c == '.'
  | .raw _ => false
  | _ => true

/-! ### Neutral templates -/

namespace Template

/-- **A template that a scanner does not notice**, whatever the names are. -/
def IsNeutral (t : Template) : Prop := ∀ ν : Naming, Scanner.Neutral (t.fill ν).toList

theorem isNeutral_nil : IsNeutral [] := fun _ => Scanner.neutral_nil

theorem IsNeutral.append {a b : Template} (ha : IsNeutral a) (hb : IsNeutral b) :
    IsNeutral (a ++ b) := by
  intro ν
  rw [fill_append, String.toList_append]
  exact (ha ν).append (hb ν)

theorem isNeutral_piece {piece : Piece} (h : ∀ ν, Scanner.Neutral (piece.write ν).toList) :
    IsNeutral [piece] := by
  intro ν
  simpa using h ν

theorem isNeutral_text {s : String} (h : s.toList.all isIdle = true) : IsNeutral [.text s] :=
  isNeutral_piece fun _ => Scanner.neutral_of_isIdle h

theorem isNeutral_text_escape (before after : String) (hbefore : before.toList.all isIdle = true)
    (hafter : after.toList.all isIdle = true) (name : String) :
    IsNeutral [.text (before ++ Identifier.escape name ++ after)] := by
  refine isNeutral_piece fun ν => ?_
  simp only [Piece.write, String.toList_append]
  exact ((Scanner.neutral_of_isIdle hbefore).append (Scanner.neutral_escape name)).append
    (Scanner.neutral_of_isIdle hafter)

theorem isNeutral_variableName (v : Variable) : IsNeutral [.variableName v] :=
  isNeutral_piece fun _ => Scanner.neutral_escape _

theorem isNeutral_parameterName (p : Parameter) : IsNeutral [.parameterName p] := by
  refine isNeutral_piece fun ν => ?_
  rw [Piece.write, String.toList_append]
  exact (Scanner.neutral_of_isIdle (by decide)).append (Scanner.neutral_escape _)

theorem isNeutral_labelSign : IsNeutral [.labelSign] := by
  have hsign : ∀ op : LabelOperator, op.separator.toList.all isIdle = true := by
    intro op
    cases op <;> decide
  exact isNeutral_piece fun ν => Scanner.neutral_of_isIdle (hsign ν.labelOperator)

theorem isNeutral_fault (e : BuildError) : IsNeutral [.fault e] :=
  isNeutral_piece fun _ => Scanner.neutral_nil

/-- A neutral template after a text without quotes and brackets. -/
theorem IsNeutral.text_cons {t : Template} (h : IsNeutral t) {s : String}
    (hs : s.toList.all isIdle = true) : IsNeutral (.text s :: t) :=
  (isNeutral_text hs).append h

/-- **A neutral template in brackets.** -/
theorem IsNeutral.within {t : Template} (h : IsNeutral t) {opening closing : String}
    (hbrackets : Scanner.areBrackets opening.toList closing.toList = true) :
    IsNeutral (.text opening :: t ++ [.text closing]) := by
  intro ν
  have hfill : (fill ν (.text opening :: t ++ [.text closing])).toList =
      opening.toList ++ (fill ν t).toList ++ closing.toList := by
    simp [Piece.write]
  rw [hfill]
  exact (h ν).within hbrackets

theorem isNeutral_flatten {ts : List Template} (h : ∀ t ∈ ts, IsNeutral t) :
    IsNeutral ts.flatten := by
  induction ts with
  | nil => exact isNeutral_nil
  | cons t rest ih =>
      rw [List.forall_mem_cons] at h
      exact h.1.append (ih h.2)

/-- **Neutral templates with a neutral piece between each two.** -/
theorem isNeutral_joined {sign : Piece} (hsign : IsNeutral [sign]) {ts : List Template}
    (h : ∀ t ∈ ts, IsNeutral t) : IsNeutral (joined sign ts) := by
  induction ts with
  | nil => exact isNeutral_nil
  | cons t rest ih =>
      rw [List.forall_mem_cons] at h
      cases rest with
      | nil => simpa using h.1
      | cons u rest =>
          rw [joined_cons_cons]
          exact h.1.append (hsign.append (ih h.2))

/-- Templates of several things with a text without quotes and brackets between each two. -/
theorem isNeutral_joined_map {α : Type} {template : α → Template} {sep : String}
    (hsep : sep.toList.all isIdle = true) {as : List α} (h : ∀ a ∈ as, IsNeutral (template a)) :
    IsNeutral (joined (.text sep) (as.map template)) :=
  isNeutral_joined (isNeutral_text hsep) (List.forall_mem_map.2 h)

end Template

/-! ### Numbers -/

/-- Numbers are written without quotes and brackets. -/
theorem all_isIdle_of_isNumberText {cs : List Char} (h : isNumberText cs = true) :
    cs.all isIdle = true := by
  refine all_of_isNumberText (fun c hc => Scanner.isIdle_of_isAlphanum ?_) (by decide) h
  simp [Char.isAlphanum, hc]

/-! ### Expressions -/

theorem Literal.isNeutral_template (l : Literal) : l.template.IsNeutral := by
  cases l with
  | null => exact Template.isNeutral_text (by decide)
  | bool b => cases b <;> exact Template.isNeutral_text (by decide)
  | integer n => exact Template.isNeutral_text (all_isIdle_of_isNumberText (isNumberText_integer n))
  | text s => exact Template.isNeutral_piece fun _ => Scanner.neutral_literal s
  | double x =>
      cases hfinite : x.isFinite with
      | true =>
          simp only [template, write, hfinite, if_true]
          exact Template.isNeutral_text (all_isIdle_of_isNumberText (isNumberText_write _ x))
      | false =>
          simp only [template, write, hfinite, Bool.false_eq_true, if_false]
          exact Template.isNeutral_fault _

namespace Expression

theorem isNeutral_besideTemplate (operand : Expression) {t : Template} (h : t.IsNeutral) :
    (besideTemplate operand t).IsNeutral := by
  unfold besideTemplate
  split
  · exact h.within (by decide)
  · exact h

theorem isNeutral_composeTemplate (op : Operator) {alone beside : List Template}
    (halone : ∀ t ∈ alone, t.IsNeutral) (hbeside : ∀ t ∈ beside, t.IsNeutral) :
    (op.composeTemplate alone beside).IsNeutral := by
  have hsep : (" " ++ op.keyword ++ " ").toList.all isIdle = true := by cases op <;> decide
  have hjoined : ∀ ts : List Template, (∀ t ∈ ts, t.IsNeutral) →
      (Template.joined (.text (" " ++ op.keyword ++ " ")) ts).IsNeutral := fun _ hts =>
    Template.isNeutral_joined (Template.isNeutral_text hsep) hts
  unfold Operator.composeTemplate
  cases op.family with
  | arithmetic => exact (hjoined beside hbeside).within (by decide)
  | comparison => exact hjoined beside hbeside
  | connective =>
      dsimp only
      split
      · exact hjoined alone halone
      · exact (hjoined alone halone).within (by decide)
  | before =>
      refine (hjoined alone halone).within ?_
      cases op <;> decide
  | after =>
      refine (hjoined beside hbeside).append (Template.isNeutral_text ?_)
      cases op <;> decide

theorem isNeutral_mapTemplate {entries : List (String × Expression)}
    (h : ∀ entry ∈ entries, entry.2.template.IsNeutral) :
    (mapTemplate (entryTemplates entries)).IsNeutral := by
  have hentry : ∀ entry ∈ entries, (entryTemplate entry).IsNeutral := by
    intro entry hmem
    have hkey := Template.isNeutral_text_escape "" ": " (by decide) (by decide) entry.1
    rw [String.empty_append] at hkey
    exact hkey.append (h entry hmem)
  rw [entryTemplates_eq_map]
  exact (Template.isNeutral_joined_map (by decide) hentry).within (by decide)

/-- The names of functions have no quotes and brackets. -/
theorem all_isIdle_function {function : String}
    (h : (function.toList.all fun c => Identifier.isPart c || c == '.') = true) :
    function.toList.all isIdle = true := by
  rw [List.all_eq_true] at h ⊢
  intro c hc
  rcases Bool.or_eq_true_iff.1 (h c hc) with hpart | hdot
  · exact Scanner.isIdle_of_isPart hpart
  · rw [beq_iff_eq.1 hdot]
    rfl

theorem areBrackets_function {function : String}
    (h : (function.toList.all fun c => Identifier.isPart c || c == '.') = true) :
    Scanner.areBrackets (function ++ "(").toList ")".toList = true := by
  have hopening : (function ++ "(").toList = function.toList ++ ['('] := by simp
  rw [hopening]
  simp [Scanner.areBrackets, all_isIdle_function h, Scanner.closing?]

/-- **The template of an expression is neutral.** -/
theorem isNeutral_template {e : Expression} (h : e.parts.all isSafe = true) :
    e.template.IsNeutral := by
  rw [List.all_eq_true] at h
  induction e using Expression.induction with
  | literal l => exact l.isNeutral_template
  | reference v => exact Template.isNeutral_variableName v
  | placeholder p => exact Template.isNeutral_parameterName p
  | property base key ih =>
      have hbase := ih (all_parts_child h base (List.mem_singleton.2 rfl))
      have hkey := Template.isNeutral_text_escape "." "" (by decide) (by decide) key
      rw [String.append_empty] at hkey
      exact hbase.append hkey
  | application op operands ih =>
      have halone : ∀ t ∈ operands.map template, t.IsNeutral := by
        refine List.forall_mem_map.2 fun operand hmem => ?_
        exact ih operand hmem (all_parts_child h operand hmem)
      have hbeside : ∀ t ∈ List.zipWith besideTemplate operands (operands.map template),
          t.IsNeutral := by
        rw [zipWith_beside]
        refine List.forall_mem_map.2 fun operand hmem => ?_
        exact isNeutral_besideTemplate operand (ih operand hmem (all_parts_child h operand hmem))
      simp only [template, applicationTemplate, templates_eq_map]
      split
      -- nothing is written where the number of operands is wrong
      · exact (Template.isNeutral_fault _).append (Template.isNeutral_flatten halone)
      · exact isNeutral_composeTemplate op halone hbeside
  | call function arguments ih =>
      have harguments : ∀ argument ∈ arguments, argument.template.IsNeutral := fun argument hmem =>
        ih argument hmem (all_parts_child h argument hmem)
      rw [template, templates_eq_map]
      exact (Template.isNeutral_joined_map (by decide) harguments).within
        (areBrackets_function (h _ (self_mem_parts _)))
  | list items ih =>
      have hitems : ∀ item ∈ items, item.template.IsNeutral := fun item hmem =>
        ih item hmem (all_parts_child h item hmem)
      rw [template, templates_eq_map]
      exact (Template.isNeutral_joined_map (by decide) hitems).within (by decide)
  | map entries ih =>
      -- the keys are written like names, so only the values matter
      refine isNeutral_mapTemplate fun entry hmem => ?_
      exact ih entry hmem (all_parts_child h entry.2 (List.mem_map_of_mem hmem))
  | identityOf v =>
      exact (Template.isNeutral_variableName v).within (by decide)
  | labelsOf v =>
      exact (Template.isNeutral_variableName v).within (by decide)
  | raw text => cases h _ (self_mem_parts _)

end Expression

end CypherQuery
